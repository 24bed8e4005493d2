/-!
A place in a YAML text: what is still to be read, and the line and column reached. The characters
of line breaks are five, and a carriage return with a line feed behind it is one break.
-/

namespace ApiForge.Yaml

/-- A place in a text. -/
structure Cursor where
  rest : List Char
  index : Nat := 0
  line : Nat := 0
  column : Nat := 0

/-- Whether a character may stand in a YAML text at all. -/
def isAllowed (c : Char) : Bool :=
  let n := c.toNat
  n == 0x09 || n == 0x0A || n == 0x0D || (0x20 ≤ n && n ≤ 0x7E) || n == 0x85 ||
    (0xA0 ≤ n && n ≤ 0xD7FF) || (0xE000 ≤ n && n ≤ 0xFFFD) || 0x10000 ≤ n

/-- Whether a character ends a line. -/
def isBreak (c : Char) : Bool :=
  c == '\n' || c == '\r' || c.toNat == 0x85 || c.toNat == 0x2028 || c.toNat == 0x2029

/-- Whether a character is a space or a tab. -/
def isBlank (c : Char) : Bool := c == ' ' || c == '\t'

/-- Whether a text ends or goes on with a blank or a break. -/
def startsBlank : List Char → Bool
  | [] => true
  | c :: _ => isBlank c || isBreak c

/-- Whether a character may stand in a name. -/
def isNameChar (c : Char) : Bool := c.isAlphanum || c == '_' || c == '-'

/-- Whether a text begins with the mark of the beginning or end of a document. -/
def startsDocumentMark : List Char → Bool
  | '-' :: '-' :: '-' :: rest => startsBlank rest
  | '.' :: '.' :: '.' :: rest => startsBlank rest
  | _ => false

/-- The character that a break stands for: a line feed, except for the separators of lines and
paragraphs, which stand for themselves. -/
def breakChar (c : Char) : Char :=
  if c.toNat == 0x2028 || c.toNat == 0x2029 then c else '\n'

namespace Cursor

/-- The place after a number of characters of the same line. -/
def advance (p : Cursor) (n : Nat) : Cursor :=
  { p with rest := p.rest.drop n, index := p.index + n, column := p.column + n }

/-- The place after the characters of a line that satisfy a condition. -/
def advanceWhile (p : Cursor) (holds : Char → Bool) : Cursor :=
  p.advance (p.rest.takeWhile holds).length

/-- The place after a break. -/
def nextLine (p : Cursor) : Cursor :=
  match p.rest with
  | '\r' :: '\n' :: rest => ⟨rest, p.index + 2, p.line + 1, 0⟩
  | c :: rest => if isBreak c then ⟨rest, p.index + 1, p.line + 1, 0⟩ else p
  | [] => p

/-- The place after a break, with what the break stands for. -/
def takeBreak (p : Cursor) : List Char × Cursor :=
  match p.rest with
  | c :: _ => if isBreak c then ([breakChar c], p.nextLine) else ([], p)
  | [] => ([], p)

/-- Whether a line begins here with the mark of the beginning or end of a document. -/
def atDocumentMark (p : Cursor) : Bool := p.column == 0 && startsDocumentMark p.rest

end Cursor

end ApiForge.Yaml
