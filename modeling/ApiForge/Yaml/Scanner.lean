import ApiForge.Yaml.Block
import ApiForge.Yaml.Plain
import ApiForge.Yaml.Property
import ApiForge.Yaml.Quoted

/-!
Cutting a YAML text into tokens. Indentation becomes tokens that open and close collections. The
token of a key comes before the key itself although only the colon behind it gives it away, so the
place of everything that may still turn out to be a key is remembered.
-/

namespace ApiForge.Yaml

/-- A place where a key may have begun. -/
structure KeyPlace where
  possible : Bool := false
  /-- Whether the text makes no sense unless this is a key. -/
  required : Bool := false
  /-- The number of tokens before it. -/
  tokens : Nat := 0
  index : Nat := 0
  line : Nat := 0
  column : Nat := 0

structure Scanner where
  place : Cursor
  tokens : Array Token := #[]
  /-- The column of the innermost block collection, -1 outside of all. -/
  indent : Int := -1
  /-- The columns of the collections around it, innermost first. -/
  outer : List Int := []
  /-- Whether a key may begin here. -/
  keyAllowed : Bool := true
  /-- The place where a key may have begun, in the innermost flow collection. -/
  key : KeyPlace := {}
  /-- The same for the collections around it, innermost first; as many as flow collections are
  open. -/
  outerKeys : List KeyPlace := []

/-- The greatest length of a key that is not marked as one. -/
def maxKeyLength : Nat := 1024

namespace Scanner

def inFlow (s : Scanner) : Bool := !s.outerKeys.isEmpty

def column (s : Scanner) : Int := s.place.column

def emit (s : Scanner) (t : Token) : Scanner := { s with tokens := s.tokens.push t }

/-- Inserts a token at a place among the tokens. -/
def insert (s : Scanner) (i : Nat) (t : Token) : Scanner :=
  { s with tokens := s.tokens.insertIdx! (min i s.tokens.size) t }

def moveTo (s : Scanner) (p : Cursor) : Scanner := { s with place := p }

/-- Whether a place is too far behind for a key to have begun there. -/
def isStale (s : Scanner) (k : KeyPlace) : Bool :=
  k.line < s.place.line || k.index + maxKeyLength < s.place.index

/-- Gives up a place that is too far behind. -/
def dropStale (s : Scanner) (k : KeyPlace) : Option KeyPlace :=
  if k.possible && s.isStale k then
    if k.required then none else some { k with possible := false }
  else some k

/-- Gives up all places that are too far behind. -/
def dropStaleKeys (s : Scanner) : Option Scanner := do
  let key ← s.dropStale s.key
  let outerKeys ← s.outerKeys.mapM s.dropStale
  return { s with key, outerKeys }

/-- Gives up the innermost place where a key may have begun. -/
def dropKey (s : Scanner) : Option Scanner :=
  if s.key.possible && s.key.required then none
  else some { s with key := { s.key with possible := false } }

/-- Remembers that a key may begin here. -/
def saveKey (s : Scanner) : Option Scanner :=
  if s.keyAllowed then do
    let required := !s.inFlow && s.indent == s.column
    let s ← s.dropKey
    return { s with key :=
      { possible := true, required, tokens := s.tokens.size, index := s.place.index,
        line := s.place.line, column := s.place.column } }
  else some s

/-- Opens a block collection at a column, unless one is open there. -/
def openBlock (s : Scanner) (column : Int) (at? : Option Nat) (t : Token) : Scanner :=
  if s.inFlow || column ≤ s.indent then s
  else
    let s := { s with outer := s.indent :: s.outer, indent := column }
    match at? with
    | some i => s.insert i t
    | none => s.emit t

/-- Closes the collections whose columns lie beyond a column, of those listed. -/
def closeEach (column : Int) (s : Scanner) : List Int → Scanner
  | [] => s
  | next :: outer =>
    if s.indent ≤ column then s
    else closeEach column { s.emit .blockEnd with indent := next, outer } outer

/-- Closes the block collections whose columns lie beyond a column. -/
def closeBlocks (s : Scanner) (column : Int) : Scanner :=
  if s.inFlow then s else closeEach column s s.outer

/-- Passes over a byte order mark at the beginning of a line. -/
def skipMark (p : Cursor) : Cursor :=
  match p.rest with
  | c :: _ => if p.column == 0 && c.toNat == 0xFEFF then p.advance 1 else p
  | [] => p

/-- Passes over blanks, comments and breaks. Tabs count as blanks where they cannot be taken for
indentation. No text has more lines than characters. -/
def skipToToken (s : Scanner) : Nat → Scanner
  | 0 => s
  | fuel + 1 =>
    let tabs := s.inFlow || !s.keyAllowed
    let p := (skipMark s.place).advanceWhile fun c => c == ' ' || (tabs && c == '\t')
    let p := match p.rest with
      | '#' :: _ => p.advanceWhile (!isBreak ·)
      | _ => p
    match p.rest with
    | c :: _ =>
      if isBreak c then
        skipToToken { s with place := p.nextLine, keyAllowed := s.keyAllowed || !s.inFlow } fuel
      else s.moveTo p
    | [] => s.moveTo p

/-- Reads the beginning of a flow collection. -/
def openFlow (s : Scanner) (t : Token) : Option Scanner := do
  let s ← s.saveKey
  let s := { s with outerKeys := s.key :: s.outerKeys, key := {}, keyAllowed := true }
  return (s.moveTo (s.place.advance 1)).emit t

/-- Reads the end of a flow collection. -/
def closeFlow (s : Scanner) (t : Token) : Option Scanner := do
  let s ← s.dropKey
  let s := match s.outerKeys with
    | [] => s
    | key :: outerKeys => { s with key, outerKeys }
  return ({ s with keyAllowed := false }.moveTo (s.place.advance 1)).emit t

/-- Reads the comma of a flow collection. -/
def flowEntry (s : Scanner) : Option Scanner := do
  let s ← s.dropKey
  return ({ s with keyAllowed := true }.moveTo (s.place.advance 1)).emit .flowEntry

/-- Reads the dash of a block sequence. -/
def blockEntry (s : Scanner) : Option Scanner := do
  if !s.inFlow && !s.keyAllowed then none
  else
    let s ← (s.openBlock s.column none .blockSequenceStart).dropKey
    return ({ s with keyAllowed := true }.moveTo (s.place.advance 1)).emit .blockEntry

/-- Reads the question mark before a key. -/
def explicitKey (s : Scanner) : Option Scanner := do
  if !s.inFlow && !s.keyAllowed then none
  else
    let s ← (s.openBlock s.column none .blockMappingStart).dropKey
    return ({ s with keyAllowed := !s.inFlow }.moveTo (s.place.advance 1)).emit .key

/-- Reads the colon before a value. If a key may have begun before it, it did. -/
def valueMark (s : Scanner) : Option Scanner := do
  if s.key.possible then
    let k := s.key
    let s := (s.insert k.tokens .key).openBlock k.column (some k.tokens) .blockMappingStart
    let s := { s with key := { k with possible := false }, keyAllowed := false }
    return (s.moveTo (s.place.advance 1)).emit .value
  else if !s.inFlow && !s.keyAllowed then none
  else
    let s := s.openBlock s.column none .blockMappingStart
    return ({ s with keyAllowed := !s.inFlow }.moveTo (s.place.advance 1)).emit .value

/-- Reads something that may be or begin a key. -/
def keyPart (s : Scanner) (read : Cursor → Option (Token × Cursor)) : Option Scanner := do
  let s ← s.saveKey
  let (t, p) ← read s.place
  return ({ s with keyAllowed := false }.moveTo p).emit t

/-- Reads a plain scalar. A key may begin after it if a line did. -/
def plainScalar (s : Scanner) : Option Scanner := do
  let s ← s.saveKey
  let scalar ← readPlain s.inFlow (s.indent + 1) s.place
  return ({ s with keyAllowed := scalar.inNewLine }.moveTo scalar.after).emit
    (.scalar .plain scalar.text)

def blockScalar (s : Scanner) (style : Style) : Option Scanner := do
  let s ← s.dropKey
  let (text, p) ← readBlock (style == .literal) s.indent s.place
  return ({ s with keyAllowed := true }.moveTo p).emit (.scalar style text)

/-- Reads something that belongs to no collection. -/
def outside (s : Scanner) (read : Cursor → Option (Token × Cursor)) : Option Scanner := do
  let s ← (s.closeBlocks (-1)).dropKey
  let (t, p) ← read s.place
  return ({ s with keyAllowed := false }.moveTo p).emit t

/-- Whether a plain scalar may begin here. -/
def startsPlain (inFlow : Bool) : List Char → Bool
  | [] => false
  | c :: rest =>
    if isBlank c || isBreak c then false
    else if c == '-' then !(rest.head?.map isBlank).getD false
    else if c == '?' || c == ':' then !inFlow && !startsBlank rest
    else !(",[]\x7b\x7d#&*!|>'\"%@".toList.contains c) && c.toNat != 0x60

/-- Reads the next token or tokens. -/
def step (s : Scanner) : Option Scanner :=
  let p := s.place
  match p.rest with
  | [] => none
  | c :: rest =>
    if p.column == 0 && c == '%' then s.outside readDirective
    else if p.atDocumentMark then
      s.outside fun p => some (if c == '-' then .documentStart else .documentEnd, p.advance 3)
    else if c == '[' then s.openFlow .flowSequenceStart
    else if c == '\x7b' then s.openFlow .flowMappingStart
    else if c == ']' then s.closeFlow .flowSequenceEnd
    else if c == '\x7d' then s.closeFlow .flowMappingEnd
    else if c == ',' then s.flowEntry
    else if c == '-' && startsBlank rest then s.blockEntry
    else if c == '?' && (s.inFlow || startsBlank rest) then s.explicitKey
    else if c == ':' && (s.inFlow || startsBlank rest) then s.valueMark
    else if c == '*' then s.keyPart fun p => (readAnchor p).map fun (name, p) => (.alias name, p)
    else if c == '&' then s.keyPart fun p => (readAnchor p).map fun (name, p) => (.anchor name, p)
    else if c == '!' then s.keyPart (readTag s.inFlow)
    else if c == '|' && !s.inFlow then s.blockScalar .literal
    else if c == '>' && !s.inFlow then s.blockScalar .folded
    else if c == '\'' || c == '"' then
      s.keyPart fun p => (readQuoted p).map fun (text, p) => (.scalar .quoted text, p)
    else if startsPlain s.inFlow p.rest then s.plainScalar
    else none

/-- Ends the text: the collections that are open end with it. -/
def finish (s : Scanner) : Option Scanner := (s.closeBlocks (-1)).dropKey

/-- The tokens that are certain: those before the first place where a key may still begin. -/
def certain (s : Scanner) : List Token :=
  let places := (s.key :: s.outerKeys).filter (·.possible)
  let bound := places.foldl (fun n k => min n k.tokens) s.tokens.size
  s.tokens.toList.take bound

/-- The tokens of the text. Where it stops making sense the tokens stop too, without the one
that ends a text. Every step reads at least one character. -/
def run (s : Scanner) : Nat → List Token
  | 0 => s.certain
  | fuel + 1 =>
    match (s.skipToToken (fuel + 1)).dropStaleKeys with
    | none => s.certain
    | some s =>
      let s := s.closeBlocks s.column
      if s.place.rest.isEmpty then
        match s.finish with
        | some s => (s.emit .streamEnd).tokens.toList
        | none => s.certain
      else
        match s.step with
        | some s => s.run fuel
        | none => s.certain

end Scanner

/-- The text without the byte order mark that it may start with. -/
def withoutMark : List Char → List Char
  | [] => []
  | c :: rest => if c.toNat == 0xFEFF then rest else c :: rest

/-- The tokens of a text, as far as it makes sense. -/
def scan (text : List Char) : List Token :=
  if text.all isAllowed then
    Scanner.run { place := { rest := withoutMark text } } (text.length + 1)
  else []

end ApiForge.Yaml
