import ApiForge.Text.Alphanumeric
import ApiForge.Text.LetterCase
import ApiForge.Text.Segment

/-!
The words inside a name. Anything but letters and numbers separates words, and inside a stretch
of letters a word also ends where a small letter meets a capital (`fooBar`), and before the last
of several capitals when a small letter follows (`HTTPServer`).
-/

namespace ApiForge.Text

/-- The case of the last cased letter in the word so far. -/
inductive Casing where
  | unset
  | lower
  | upper
  deriving DecidableEq, Repr

/-- The casing once a character has joined the word; an uncased character changes nothing. -/
def Casing.after (seen : Casing) (c : Char) : Casing :=
  if isLowercase c then .lower else if isUppercase c then .upper else seen

/-- The words of a stretch of letters and numbers. `word` holds the characters of the word being
read, last one first, and `seen` its casing. -/
def humps (seen : Casing) (word : List Char) : List Char → List (List Char)
  | [] => [word.reverse]
  | [c] => [(c :: word).reverse]
  | c :: d :: rest =>
    if seen.after c = .lower ∧ isUppercase d then
      (c :: word).reverse :: humps .unset [] (d :: rest)
    else if seen = .upper ∧ isUppercase c ∧ isLowercase d then
      word.reverse :: humps .unset [c] (d :: rest)
    else humps (seen.after c) (c :: word) (d :: rest)

/-- The words of a name, none of them empty. -/
def words (s : List Char) : List (List Char) :=
  (pieces (fun c => !isAlphanumeric c) s).flatMap fun piece =>
    if piece.isEmpty then [] else humps .unset [] piece

/-- A word in small letters. A capital sigma that ends the word takes its final form. -/
def lowerWord : List Char → List Char
  | [] => []
  | [c] => if c = 'Σ' then ['ς'] else toLowercase c
  | c :: rest => toLowercase c ++ lowerWord rest

/-- The words of a name in small letters, joined by underscores. -/
def snakeCase (s : List Char) : List Char := ['_'].intercalate ((words s).map lowerWord)

/-- The words of a name in capitals, joined by underscores. -/
def shoutCase (s : List Char) : List Char :=
  ['_'].intercalate ((words s).map (·.flatMap toUppercase))

end ApiForge.Text
