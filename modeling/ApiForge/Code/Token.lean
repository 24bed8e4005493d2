import ApiForge.Text.IdentifierChar

/-!
Code as tokens. A text is cut from the left: each lexeme takes as many characters as it can, and
blanks and comments leave no token. A text with a character that begins no lexeme, or with a
comment, string or number that is not finished, is no code.
-/

namespace ApiForge.Code

open Text

inductive Token where
  /-- An identifier, a keyword or an underscore. -/
  | word (text : List Char)
  /-- An identifier marked so that it may be a keyword. -/
  | raw (text : List Char)
  | lifetime
  /-- A number, a character or a string. -/
  | literal
  /-- A character of punctuation. -/
  | mark (c : Char)
  deriving DecidableEq, Repr

def keywords : List String :=
  ["as", "async", "await", "break", "const", "continue", "crate", "dyn", "else", "enum",
   "extern", "false", "fn", "for", "if", "impl", "in", "let", "loop", "match", "mod", "move",
   "mut", "pub", "ref", "return", "self", "Self", "static", "struct", "super", "trait", "true",
   "type", "unsafe", "use", "where", "while", "abstract", "become", "box", "do", "final", "macro",
   "override", "priv", "try", "typeof", "unsized", "virtual", "yield"]

def isKeyword (s : List Char) : Bool := keywords.contains (String.ofList s)

def startsWord (c : Char) : Bool := c == '_' || startsIdentifier c

/-- Whether a text has the form of a word. -/
def isWord : List Char → Bool
  | [] => false
  | c :: rest => startsWord c && rest.all continuesIdentifier

/-- Whether a text can be the name of something: a word that is neither a keyword nor a bare
underscore. -/
def isName (s : List Char) : Bool := isWord s && !isKeyword s && s != ['_']

/-- Whether a character parts tokens and is none itself. -/
def isCodeBlank (c : Char) : Bool :=
  c ∈ ['\t', '\n', '\x0b', '\x0c', '\r', ' ', '\u0085', '\u200e', '\u200f', '\u2028', '\u2029']

/-- Whether a character is punctuation. -/
def isMark (c : Char) : Bool := c ∈ ";,.()\x7b\x7d[]@#~?:$=!<>-&|+*^%/".toList

/-- How many characters from here on belong to the word that was begun. -/
def wordLength (s : List Char) : Nat := (s.takeWhile continuesIdentifier).length

/-- How many characters from here on are the ending of a literal. -/
def suffixLength : List Char → Nat
  | [] => 0
  | c :: rest => if startsWord c then wordLength rest + 1 else 0

/-- How many characters from here on belong to a comment in which `depth` more are open. -/
def commentLength (depth : Nat) : List Char → Option Nat
  | [] => none
  | '*' :: '/' :: rest =>
    match depth with
    | 0 => some 2
    | depth + 1 => (commentLength depth rest).map (· + 2)
  | '/' :: '*' :: rest => (commentLength (depth + 1) rest).map (· + 2)
  | _ :: rest => (commentLength depth rest).map (· + 1)

/-- How many characters from here on belong to text in quotes, the last quote among them. -/
def quotedLength (quote : Char) : List Char → Option Nat
  | [] => none
  | '\\' :: _ :: rest => (quotedLength quote rest).map (· + 2)
  | c :: rest => if c = quote then some 1 else (quotedLength quote rest).map (· + 1)

/-- How many characters from here on belong to text that ends with a quote and as many hashes as
it began with. -/
def rawLength (hashes : Nat) : List Char → Option Nat
  | [] => none
  | c :: rest =>
    if c = '"' && (List.replicate hashes '#').isPrefixOf rest then some (hashes + 1)
    else (rawLength hashes rest).map (· + 1)

/-- How many characters from here on belong to a raw string whose mark was just read. -/
def rawStringLength? (s : List Char) : Option Nat :=
  let hashes := (s.takeWhile (· == '#')).length
  match s.drop hashes with
  | '"' :: rest => (rawLength hashes rest).map (· + hashes + 1)
  | _ => none

/-- A literal of some length and its ending. -/
def literalOf (s : List Char) (length : Nat) : List Token × Nat :=
  ([.literal], length + suffixLength (s.drop length))

/-- How many characters from here on are digits of a base, or underscores; none without a digit. -/
def digitsLength? (isDigit : Char → Bool) (s : List Char) : Option Nat :=
  let digits := s.takeWhile fun c => c == '_' || isDigit c
  if digits.any isDigit then some digits.length else none

def isHexDigit (c : Char) : Bool :=
  c.isDigit || ('a' ≤ c && c ≤ 'f') || ('A' ≤ c && c ≤ 'F')

/-- How many characters from here on belong to an exponent whose mark was just read. -/
def exponentLength? : List Char → Option Nat
  | '+' :: rest => (digitsLength? Char.isDigit rest).map (· + 1)
  | '-' :: rest => (digitsLength? Char.isDigit rest).map (· + 1)
  | s => digitsLength? Char.isDigit s

/-- How many characters from here on follow the whole digits of a number: a fraction, an
exponent, or both. -/
def fractionLength? : List Char → Option Nat
  | 'e' :: rest => (exponentLength? rest).map (· + 1)
  | 'E' :: rest => (exponentLength? rest).map (· + 1)
  | '.' :: rest =>
    match rest with
    | [] => some 1
    | c :: _ =>
      if c == '.' || startsWord c then some 0
      else
        let digits := (rest.takeWhile fun c => c == '_' || c.isDigit).length
        if !c.isDigit then some 1
        else
          match rest.drop digits with
          | 'e' :: after => (exponentLength? after).map (· + digits + 2)
          | 'E' :: after => (exponentLength? after).map (· + digits + 2)
          | _ => some (digits + 1)
  | _ => some 0

/-- How many characters from here on belong to a number after its first digit. -/
def numberLength? (first : Char) (s : List Char) : Option Nat :=
  match first, s with
  | '0', 'b' :: rest => (digitsLength? Char.isDigit rest).map (· + 1)
  | '0', 'o' :: rest => (digitsLength? Char.isDigit rest).map (· + 1)
  | '0', 'x' :: rest => (digitsLength? isHexDigit rest).map (· + 1)
  | _, _ =>
    let whole := (s.takeWhile fun c => c == '_' || c.isDigit).length
    (fractionLength? (s.drop whole)).map (· + whole)

/-- The token after a single quote, a character or a lifetime, and how many characters it takes. -/
def afterQuote (s : List Char) : Option (List Token × Nat) :=
  match s with
  | [] => none
  | c :: rest =>
    if (startsWord c || c.isDigit) && rest.head? != some '\'' then
      let length := wordLength rest + 1
      if (s.drop length).head? == some '\'' then some (literalOf s (length + 1))
      else if c.isDigit then none
      else some ([.lifetime], length)
    else (quotedLength '\'' s).map (literalOf s)

/-- The token of a word with a first character, and how many more characters it takes. A word right
before a quote or a hash would be the mark of a literal, and no word is. -/
def wordFrom (c : Char) (rest : List Char) : Option (List Token × Nat) :=
  let length := wordLength rest
  match rest.drop length with
  | '"' :: _ => none
  | '#' :: _ => none
  | '\'' :: _ => none
  | _ => some ([.word (c :: rest.take length)], length)

/-- What a first character begins: the tokens of a lexeme, of which there is at most one, and how
many more characters it takes. -/
def lexeme (c : Char) (rest : List Char) : Option (List Token × Nat) :=
  if isCodeBlank c then some ([], 0)
  else
    match c, rest with
    | '/', '/' :: _ => some ([], (rest.takeWhile (· != '\n')).length)
    | '/', '*' :: inner => (commentLength 0 inner).map fun n => ([], n + 1)
    | '"', _ => (quotedLength '"' rest).map (literalOf rest)
    | '\'', _ => afterQuote rest
    | 'b', '\'' :: inner => (quotedLength '\'' inner).map fun n => literalOf rest (n + 1)
    | 'b', '"' :: inner => (quotedLength '"' inner).map fun n => literalOf rest (n + 1)
    | 'c', '"' :: inner => (quotedLength '"' inner).map fun n => literalOf rest (n + 1)
    | 'r', '"' :: _ => (rawStringLength? rest).map (literalOf rest)
    | 'r', '#' :: d :: inner =>
      if startsWord d then
        some ([.raw (d :: inner.take (wordLength inner))], wordLength inner + 2)
      else (rawStringLength? rest).map (literalOf rest)
    | _, _ =>
      if startsWord c then wordFrom c rest
      else if c.isDigit then (numberLength? c rest).map (literalOf rest)
      else if isMark c then some ([.mark c], 0)
      else none

def tokens : List Char → Option (List Token)
  | [] => some []
  | c :: rest =>
    match lexeme c rest with
    | none => none
    | some (found, length) => (tokens (rest.drop length)).map (found ++ ·)
termination_by s => s.length
decreasing_by
  simp only [List.length_drop, List.length_cons]
  omega

end ApiForge.Code
