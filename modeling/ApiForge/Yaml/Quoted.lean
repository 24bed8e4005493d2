import ApiForge.Text.Digit
import ApiForge.Yaml.Folding

/-!
Quoted scalars. Between single quotes a quote is written twice; between double quotes a backslash
begins an escape, and one at the end of a line joins it with the next.
-/

namespace ApiForge.Yaml

/-- The character that a one-letter escape stands for. -/
def escapedChar : Char → Option Char
  | '0' => some '\x00'
  | 'a' => some '\x07'
  | 'b' => some '\x08'
  | 't' => some '\t'
  | '\t' => some '\t'
  | 'n' => some '\n'
  | 'v' => some '\x0b'
  | 'f' => some '\x0c'
  | 'r' => some '\r'
  | 'e' => some '\x1b'
  | ' ' => some ' '
  | '"' => some '"'
  | '/' => some '/'
  | '\\' => some '\\'
  | 'N' => some '\u0085'
  | '_' => some '\u00a0'
  | 'L' => some '\u2028'
  | 'P' => some '\u2029'
  | _ => none

/-- The number of hexadecimal digits of a numeric escape. -/
def escapeLength : Char → Option Nat
  | 'x' => some 2
  | 'u' => some 4
  | 'U' => some 8
  | _ => none

/-- The character of a code point, if there is one. -/
def charOf (n : Nat) : Option Char := if n.isValidChar then some (Char.ofNat n) else none

/-- Reads a single-quoted scalar from a place after its opening quote. -/
def readSingleFrom (f : Folding) (p : Cursor) : List Char → Option (String × Cursor)
  | [] => none
  | '\'' :: '\'' :: rest => readSingleFrom (f.add '\'') (p.advance 2) rest
  | '\r' :: '\n' :: rest => readSingleFrom (f.addBreak '\n') p.nextLine rest
  | c :: rest =>
    if isBreak c then readSingleFrom (f.addBreak c) p.nextLine rest
    else if isBlank c then readSingleFrom (f.addBlank c) (p.advance 1) rest
    else if p.atDocumentMark then none
    else if c == '\'' then some (f.join.result, p.advance 1)
    else readSingleFrom (f.add c) (p.advance 1) rest

/-- Reads a double-quoted scalar from a place after its opening quote, passing over the next `skip`
characters, which belong to an escape that is read. -/
def readDoubleFrom (skip : Nat) (f : Folding) (p : Cursor) : List Char → Option (String × Cursor)
  | [] => none
  | '\r' :: '\n' :: rest =>
    if skip = 0 then readDoubleFrom 0 (f.addBreak '\n') p.nextLine rest else none
  | '\\' :: '\r' :: '\n' :: rest =>
    if skip = 0 then readDoubleFrom 0 f.join.beginLine (p.advance 1).nextLine rest else none
  | '\\' :: e :: rest =>
    if skip ≠ 0 then readDoubleFrom (skip - 1) f (p.advance 1) (e :: rest)
    else if isBreak e then readDoubleFrom 0 f.join.beginLine (p.advance 1).nextLine rest
    else
      match escapedChar e with
      | some c => readDoubleFrom 0 (f.add c) (p.advance 2) rest
      | none => do
        let length ← escapeLength e
        if rest.length < length then none
        else
          let n ← Text.numberIn 16 (rest.take length)
          let c ← charOf n
          readDoubleFrom length (f.add c) (p.advance 2) rest
  | c :: rest =>
    if skip ≠ 0 then readDoubleFrom (skip - 1) f (p.advance 1) rest
    else if isBreak c then readDoubleFrom 0 (f.addBreak c) p.nextLine rest
    else if isBlank c then readDoubleFrom 0 (f.addBlank c) (p.advance 1) rest
    else if p.atDocumentMark then none
    else if c == '"' then some (f.join.result, p.advance 1)
    else if c == '\\' then none
    else readDoubleFrom 0 (f.add c) (p.advance 1) rest

/-- Reads a quoted scalar from its opening quote. -/
def readQuoted (p : Cursor) : Option (String × Cursor) :=
  match p.rest with
  | '\'' :: rest => readSingleFrom {} (p.advance 1) rest
  | '"' :: rest => readDoubleFrom 0 {} (p.advance 1) rest
  | _ => none

end ApiForge.Yaml
