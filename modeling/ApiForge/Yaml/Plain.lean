import ApiForge.Yaml.Folding

/-!
Plain scalars: text without quotes, which ends at a comment, at a colon before a blank, at the
punctuation of a flow collection, and where a line is indented too little.
-/

namespace ApiForge.Yaml

/-- Whether a character delimits the parts of a flow collection. -/
def isFlowIndicator (c : Char) : Bool :=
  c == ',' || c == '[' || c == ']' || c == '\x7b' || c == '\x7d'

/-- Whether a colon may not stand before the text in a flow collection. -/
def followsBadColon : List Char → Bool
  | [] => false
  | c :: _ => c == '?' || isFlowIndicator c

/-- A plain scalar that was read: its text, the place after it, and whether that is in a new
line. -/
structure PlainScalar where
  text : String
  after : Cursor
  inNewLine : Bool

/-- The scalar as it stands at a place. -/
def Folding.toPlain (f : Folding) (p : Cursor) : PlainScalar := ⟨f.result, p, f.inNewLine⟩

/-- Reads a plain scalar from a place on, where `indent` is the least column of its lines and
`gap` says that blanks or breaks come right before. The characters of the text are followed one
by one; none when the text cannot be a scalar. -/
def readPlainFrom (inFlow : Bool) (indent : Int) (gap : Bool) (f : Folding) (p : Cursor) :
    List Char → Option PlainScalar
  | [] => some (f.toPlain p)
  | '\r' :: '\n' :: rest => readPlainFrom inFlow indent true (f.addBreak '\n') p.nextLine rest
  | c :: rest =>
    if isBreak c then readPlainFrom inFlow indent true (f.addBreak c) p.nextLine rest
    else if isBlank c then
      if f.inNewLine && (p.column : Int) < indent && c == '\t' then none
      else readPlainFrom inFlow indent true (f.addBlank c) (p.advance 1) rest
    else if gap && !inFlow && (p.column : Int) < indent then some (f.toPlain p)
    else if gap && (p.atDocumentMark || c == '#') then some (f.toPlain p)
    else if inFlow && c == ':' && followsBadColon rest then none
    else if (c == ':' && startsBlank rest) || (inFlow && isFlowIndicator c) then
      some (f.toPlain p)
    else readPlainFrom inFlow indent false (f.add c) (p.advance 1) rest

def readPlain (inFlow : Bool) (indent : Int) (p : Cursor) : Option PlainScalar :=
  readPlainFrom inFlow indent false {} p p.rest

end ApiForge.Yaml
