import ApiForge.Draft.Basic
import ApiForge.Json.Number
import ApiForge.Text.Digit

/-!
Reading JSON text into a draft. Numbers beyond the doubles and escapes of half a surrogate pair
are faults only where their value is asked for, and so is a nesting deeper than the limit; any
other fault of the text breaks the draft at that point.
-/

namespace ApiForge.Json

/-- The number of lists and tables that may be open at once. -/
def maxDepth : Nat := 127

/-- Whether a character may stand between the parts of a text. -/
def isSpace (c : Char) : Bool := c == ' ' || c == '\t' || c == '\n' || c == '\r'

/-- The text without the space it starts with. -/
def skipSpace (s : List Char) : List Char := s.dropWhile isSpace

/-- A piece of a string: a character, or half of a surrogate pair by its code unit. -/
inductive Piece where
  | char (c : Char)
  | half (unit : Nat)
  deriving DecidableEq, Repr

/-- The character that the two halves of a surrogate pair stand for. -/
def joinHalves (high low : Nat) : Option Char :=
  if 0xD800 ≤ high && high ≤ 0xDBFF && 0xDC00 ≤ low && low ≤ 0xDFFF then
    some (Char.ofNat (0x10000 + (high - 0xD800) * 0x400 + (low - 0xDC00)))
  else none

/-- The characters of a string; none when a surrogate stands without its other half. -/
def joinPieces : List Piece → Option (List Char)
  | [] => some []
  | .char c :: rest => (joinPieces rest).map (c :: ·)
  | .half high :: .half low :: rest => do
    let c ← joinHalves high low
    return c :: (← joinPieces rest)
  | .half _ :: _ => none

/-- The piece that a code unit stands for. -/
def Piece.ofUnit (unit : Nat) : Piece :=
  if 0xD800 ≤ unit && unit ≤ 0xDFFF then .half unit else .char (Char.ofNat unit)

/-- The character that a one-letter escape stands for. -/
def simpleEscape : Char → Option Char
  | '"' => some '"'
  | '\\' => some '\\'
  | '/' => some '/'
  | 'b' => some '\x08'
  | 'f' => some '\x0c'
  | 'n' => some '\n'
  | 'r' => some '\r'
  | 't' => some '\t'
  | _ => none

/-- Reads a string from after its opening quote up to its closing one. -/
def readPieces : List Char → Option (List Piece × List Char)
  | [] => none
  | '"' :: rest => some ([], rest)
  | '\\' :: 'u' :: a :: b :: c :: d :: rest => do
    let unit ← Text.numberIn 16 [a, b, c, d]
    let (more, rest) ← readPieces rest
    return (.ofUnit unit :: more, rest)
  | '\\' :: e :: rest => do
    let c ← simpleEscape e
    let (more, rest) ← readPieces rest
    return (.char c :: more, rest)
  | c :: rest =>
    if c.toNat < 32 || c == '\\' then none
    else do
      let (more, rest) ← readPieces rest
      return (.char c :: more, rest)

end ApiForge.Json

namespace ApiForge.Draft

open Json

/-- The scalar of a JSON value. -/
def ofJsonScalar (v : Json) : Draft :=
  .scalar
    { value := .ok v
      text := match v with
        | .str s => .ok s
        | _ => .error .misshapen
      flag := match v with
        | .bool b => .ok b
        | _ => .error .misshapen
      isAbsent := v.isNull
      isEmpty := false }

/-- A scalar that is well-formed but has no value. -/
def unreadable (f : Fault) : Draft :=
  .scalar
    { value := .error f, text := .error f, flag := .error f, isAbsent := false, isEmpty := false }

/-- A draft and what follows it; nothing follows a break. -/
abbrev Part := Draft × Option (List Char)

/-- The break of a malformed text. -/
def malformedPart : Part := (.broken .malformed, none)

/-- A list or table that opens at a depth. -/
def atDepth (depth : Nat) (d : Draft) : Draft :=
  if depth ≤ maxDepth then d else .sealed .malformed d

/-- Reads a word that stands for a value. -/
def readWord (word : String) (v : Json) (s : List Char) : Part :=
  if word.toList.isPrefixOf s then (ofJsonScalar v, some (s.drop word.length)) else malformedPart

/-- Reads a string from after its opening quote. -/
def readString (s : List Char) : Part :=
  match readPieces s with
  | none => malformedPart
  | some (pieces, rest) =>
    match joinPieces pieces with
    | some cs => (ofJsonScalar (.str (String.ofList cs)), some rest)
    | none => (unreadable .malformed, some rest)

def readNumber (s : List Char) : Part :=
  match Numeral.read? s with
  | none => malformedPart
  | some (n, rest) =>
    match n.value with
    | some v => (ofJsonScalar v, some rest)
    | none => (unreadable .malformed, some rest)

mutual

/-- Reads a value that lies in `depth` lists and tables. No text has more values than
characters, which bounds the recursion. -/
def readValue (fuel depth : Nat) (s : List Char) : Part :=
  match fuel with
  | 0 => malformedPart
  | fuel + 1 =>
    match skipSpace s with
    | [] => malformedPart
    | '"' :: rest => readString rest
    | '[' :: rest =>
      let (items, rest) := match skipSpace rest with
        | ']' :: rest => ([], some rest)
        | rest => readItems fuel (depth + 1) rest
      (atDepth (depth + 1) (.list (some .malformed) items), rest)
    | '\x7b' :: rest =>
      let (entries, rest) := match skipSpace rest with
        | '\x7d' :: rest => ([], some rest)
        | rest => readEntries fuel (depth + 1) rest
      (atDepth (depth + 1) (.dict entries), rest)
    | c :: rest =>
      if c == 'n' then readWord "null" .null (c :: rest)
      else if c == 't' then readWord "true" (.bool true) (c :: rest)
      else if c == 'f' then readWord "false" (.bool false) (c :: rest)
      else if c == '-' || c.isDigit then readNumber (c :: rest)
      else malformedPart

/-- Reads the items of a list from the first or after a comma. -/
def readItems (fuel depth : Nat) (s : List Char) : List Draft × Option (List Char) :=
  match fuel with
  | 0 => ([.broken .malformed], none)
  | fuel + 1 =>
    let (item, rest) := readValue fuel depth s
    match rest with
    | none => ([item], none)
    | some rest =>
      match skipSpace rest with
      | ']' :: rest => ([item], some rest)
      | ',' :: rest =>
        let (more, rest) := readItems fuel depth rest
        (item :: more, rest)
      | _ => ([item, .broken .malformed], none)

/-- Reads the entries of a table from the first or after a comma. -/
def readEntries (fuel depth : Nat) (s : List Char) :
    List (Draft × Draft) × Option (List Char) :=
  match fuel with
  | 0 => ([(.broken .malformed, .broken .malformed)], none)
  | fuel + 1 =>
    match skipSpace s with
    | '"' :: rest =>
      let (key, rest) := readString rest
      match rest.map skipSpace with
      | some (':' :: rest) =>
        let (value, rest) := readValue fuel depth rest
        match rest.map skipSpace with
        | some ('\x7d' :: rest) => ([(key, value)], some rest)
        | some (',' :: rest) =>
          let (more, rest) := readEntries fuel depth rest
          ((key, value) :: more, rest)
        | some _ => ([(key, value), (.broken .malformed, .broken .malformed)], none)
        | none => ([(key, value)], none)
      | _ => ([(key, .broken .malformed)], none)
    | _ => ([(.broken .malformed, .broken .malformed)], none)

end

/-- The draft of a value that is known already. A list may stand for a record, and too many items
are a fault of its shape. -/
def ofJson : Json → Draft
  | .arr items => .list (some .misshapen) (ofItems items)
  | .obj members => .dict (ofMembers members)
  | v => ofJsonScalar v
where
  /-- The drafts of the items of an array. -/
  ofItems : List Json → List Draft
    | [] => []
    | v :: rest => ofJson v :: ofItems rest
  /-- The drafts of the members of an object. -/
  ofMembers : List (String × Json) → List (Draft × Draft)
    | [] => []
    | (k, v) :: rest => (ofJsonScalar (.str k), ofJson v) :: ofMembers rest

end ApiForge.Draft

namespace ApiForge.Json

/-- Reads a JSON text, which holds one value and nothing else. -/
def read (text : String) : Reading :=
  let s := text.toList
  let (root, rest) := Draft.readValue (2 * s.length + 2) 0 s
  { root
    rest := match rest with
      | none => .ok ()
      | some rest => if (skipSpace rest).isEmpty then .ok () else .error .malformed }

/-- The value of a JSON text. -/
def parse (text : String) : Except Fault Json := (read text).get Draft.value

end ApiForge.Json
