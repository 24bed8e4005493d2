/-!
Cutting a text at separators. The pieces between separators are never fewer than one: a text
without a separator is one piece, the empty text is one empty piece.
-/

namespace ApiForge.Text

/-- The pieces of a text between its separators, in order. -/
def pieces (separates : Char → Bool) : List Char → List (List Char)
  | [] => [[]]
  | c :: rest =>
    if separates c then [] :: pieces separates rest
    else
      match pieces separates rest with
      | [] => [[c]]
      | piece :: more => (c :: piece) :: more

/-- What follows the last separator; the whole text when there is none. -/
def afterLast (separator : Char) (s : List Char) : List Char :=
  (s.reverse.takeWhile (· != separator)).reverse

/-- The lines that follow the part of a line read so far, which is held last character first. -/
def linesAfter (line : List Char) : List Char → List (List Char)
  | [] => if line.isEmpty then [] else [line.reverse]
  | '\n' :: rest =>
    (if line.head? == some '\r' then line.tail else line).reverse :: linesAfter [] rest
  | c :: rest => linesAfter (c :: line) rest

/-- The lines of a text. A line feed ends a line, together with a carriage return right before
it; a final line feed begins no further line. -/
def lines (s : List Char) : List (List Char) := linesAfter [] s

/-- The text from a point on where `skip` characters belong to an occurrence already exchanged. -/
def replaceFrom (pattern replacement : List Char) (skip : Nat) : List Char → List Char
  | [] => []
  | c :: rest =>
    if skip ≠ 0 then replaceFrom pattern replacement (skip - 1) rest
    else if pattern.isPrefixOf (c :: rest) then
      replacement ++ replaceFrom pattern replacement (pattern.length - 1) rest
    else c :: replaceFrom pattern replacement 0 rest

/-- The text with every occurrence of a non-empty pattern exchanged, found from the left. -/
def replaceAll (pattern replacement s : List Char) : List Char :=
  replaceFrom pattern replacement 0 s

end ApiForge.Text
