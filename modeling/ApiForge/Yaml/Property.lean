import ApiForge.Text.Digit
import ApiForge.Yaml.Cursor
import ApiForge.Yaml.Token

/-!
What may stand before a node or a document: anchors, tags and directives.
-/

namespace ApiForge.Yaml

/-- Whether a text goes on as it may behind the name of an anchor. -/
def endsAnchor : List Char → Bool
  | [] => true
  | c :: _ =>
    isBlank c || isBreak c || c == '?' || c == ':' || c == ',' || c == ']' || c == '\x7d' ||
      c == '%' || c == '@' || c.toNat == 0x60

/-- Reads the name of an anchor or alias from its indicator. -/
def readAnchor (p : Cursor) : Option (String × Cursor) :=
  let p := p.advance 1
  let name := p.rest.takeWhile isNameChar
  let p := p.advance name.length
  if name.isEmpty || !endsAnchor p.rest then none else some (String.ofList name, p)

/-- Whether a character may stand in the address of a tag. Only between angle brackets may it be
one that delimits flow collections. -/
def isAddressChar (verbatim : Bool) (c : Char) : Bool :=
  isNameChar c || (";/?:@&=+$.%!~*'()".toList.contains c) ||
    (verbatim && (c == ',' || c == '[' || c == ']'))

/-- The address with the bytes written as percent escapes put in their places. -/
def unescapeAddress : List Char → Option (List UInt8)
  | [] => some []
  | '%' :: a :: b :: rest => do
    let byte ← Text.numberIn 16 [a, b]
    return UInt8.ofNat byte :: (← unescapeAddress rest)
  | '%' :: _ => none
  | c :: rest => do return (String.ofList [c]).toUTF8.toList ++ (← unescapeAddress rest)

/-- Reads the address of a tag, which continues what was read of it before. -/
def readAddress (verbatim : Bool) (before : List Char) (p : Cursor) : Option (String × Cursor) := do
  let written := p.rest.takeWhile (isAddressChar verbatim)
  let bytes ← unescapeAddress (before ++ written)
  if bytes.isEmpty then none
  else
    let text ← String.fromUTF8? bytes.toByteArray
    return (text, p.advance written.length)

/-- The handle at the beginning of a tag: what stands between two exclamation marks, or as much
of it as there is. -/
def readHandle (p : Cursor) : List Char × Cursor :=
  let name := (p.rest.drop 1).takeWhile isNameChar
  let p := p.advance (1 + name.length)
  match p.rest with
  | '!' :: _ => ('!' :: name ++ ['!'], p.advance 1)
  | _ => ('!' :: name, p)

/-- Whether a handle is closed by a second exclamation mark. -/
def isClosedHandle (handle : List Char) : Bool :=
  2 ≤ handle.length && handle.getLast? == some '!'

/-- Whether a place may follow a tag. -/
def endsTag (inFlow : Bool) (p : Cursor) : Bool :=
  startsBlank p.rest || (inFlow && p.rest.head? == some ',')

/-- Reads a tag from its indicator, as handle and suffix. -/
def readTag (inFlow : Bool) (p : Cursor) : Option (Token × Cursor) := do
  let (token, p) ← match p.rest with
    | '!' :: '<' :: _ => do
      let (suffix, p) ← readAddress true [] (p.advance 2)
      if p.rest.head? == some '>' then some (Token.tag "" suffix, p.advance 1) else none
    | _ =>
      let (handle, q) := readHandle p
      if isClosedHandle handle then do
        let (suffix, q) ← readAddress false [] q
        some (.tag (String.ofList handle) suffix, q)
      else if handle.length == 1 && !(q.rest.head?.map (isAddressChar false)).getD false then
        some (.tag "" "!", q)
      else do
        let (suffix, q) ← readAddress false (handle.drop 1) q
        some (.tag "!" suffix, q)
  if endsTag inFlow p then some (token, p) else none

/-- Reads the digits of a version. -/
def readVersionNumber (p : Cursor) : Option (Nat × Cursor) :=
  let digits := p.rest.takeWhile Char.isDigit
  if digits.isEmpty || 9 < digits.length then none
  else some (digits.foldl (fun n c => n * 10 + (c.toNat - 48)) 0, p.advance digits.length)

/-- Reads the handle of a tag directive, which is closed unless it is a single exclamation
mark. -/
def readDirectiveHandle (p : Cursor) : Option (String × Cursor) :=
  match p.rest with
  | '!' :: _ =>
    let (handle, q) := readHandle p
    if handle.length == 1 || isClosedHandle handle then some (String.ofList handle, q) else none
  | _ => none

/-- Reads a directive from its indicator up to the end of its line. -/
def readDirective (p : Cursor) : Option (Token × Cursor) := do
  let p := p.advance 1
  let name := p.rest.takeWhile isNameChar
  let p := p.advance name.length
  if name.isEmpty || !startsBlank p.rest then none
  else
    let p := p.advanceWhile isBlank
    let (token, p) ← match String.ofList name with
      | "YAML" => do
        let (major, p) ← readVersionNumber p
        if p.rest.head? == some '.' then
          let (minor, p) ← readVersionNumber (p.advance 1)
          some (Token.versionDirective major minor, p)
        else none
      | "TAG" => do
        let (handle, p) ← readDirectiveHandle p
        if !(p.rest.head?.map isBlank).getD false then none
        else
          let (address, p) ← readAddress true [] (p.advanceWhile isBlank)
          if startsBlank p.rest then some (.tagDirective handle address, p) else none
      | _ => none
    let p := p.advanceWhile isBlank
    let p := match p.rest with
      | '#' :: _ => p.advanceWhile (!isBreak ·)
      | _ => p
    if (p.rest.head?.map isBreak).getD true then some (token, p.nextLine) else none

end ApiForge.Yaml
