import ApiForge.Json.Printer
import ApiForge.Json.Reader
import ApiForge.Problem
import ApiForge.Text.Literal
import ApiForge.Union.Plan

/-!
Decoding the values of a union. The entries of an object are held as they come, and the variant is
settled by the first that belongs to one; once the object ends, every entry is put under its
wire name. Only the keys of the object itself count, not those inside its values.
-/

namespace ApiForge

/-- A decoded value: its variant, and its properties by wire name. -/
structure Decoded where
  variant : String
  fields : Entries Json
  deriving Repr

/-- The entries of an object as they came, and the variant that the keys so far settle. -/
structure Held where
  selected : Option VariantTable := none
  entries : List (String × Json) := []

/-- Reads the properties of a decoded value as something of its own. -/
def Decoded.readAs {α : Type} (d : Decoded) (read : Draft → Except Fault α) : Except Problem α :=
  (read (Draft.ofJson (.obj d.fields))).mapError .json

/-- The words for a value that stands in a wrong place. -/
def Json.kindWords : Json → String
  | null => "null"
  | bool b => "boolean \x60" ++ (if b then "true" else "false") ++ "\x60"
  | int n => "integer \x60" ++ toString n ++ "\x60"
  | real d => "floating point \x60" ++ d.render ++ "\x60"
  | str s => "string " ++ Text.literal s
  | arr _ => "sequence"
  | obj _ => "map"

/-- The fault of a part that is not what is expected. -/
def Draft.unexpected (expected : String) : Draft → Fault
  | scalar s =>
    match s.value with
    | .ok v => .unexpected v.kindWords expected
    | .error f => f
  | list _ _ => .unexpected (Json.arr []).kindWords expected
  | dict _ => .unexpected (Json.obj []).kindWords expected
  | sealed _ inner => unexpected expected inner
  | marked inner => unexpected expected inner
  | broken f => f

namespace Plan

/-- What an object of a union is called. -/
def objectWords (p : Plan) : String := "an object matching one variant of " ++ p.union

/-- What a list of a union is called. -/
def listWords (p : Plan) : String := "an array of " ++ p.union ++ " values"

/-- Holds one more entry. -/
def hold (p : Plan) (held : Held) (key : String) (value : Json) : Held :=
  { selected := held.selected.or (p.select key), entries := held.entries ++ [(key, value)] }

/-- Holds the entries of an object as they come. -/
def holdEntries (p : Plan) (held : Held) : List (Draft × Draft) → Except Fault Held
  | [] => .ok held
  | (k, v) :: rest => do
    let key ← k.text
    let value ← v.value
    holdEntries p (p.hold held key value) rest

def readHeld (p : Plan) : Draft → Except Fault Held
  | .dict entries => p.holdEntries {} entries
  | .sealed f (.dict _) => .error f
  | d => .error (d.unexpected p.objectWords)

def readHeldList (p : Plan) : Draft → Except Fault (List Held)
  | .list _ items => items.mapM p.readHeld
  | .sealed f (.list _ _) => .error f
  | d => .error (d.unexpected p.listWords)

/-- Puts entries under the wire names of a variant. A wire name met again keeps its place and
takes the later value. -/
def assign (p : Plan) (variant : VariantTable) (fields : Entries Json) :
    List (String × Json) → Except Problem (Entries Json)
  | [] => .ok fields
  | (key, value) :: rest =>
    match variant.wireFor key with
    | some wire => assign p variant (fields.put wire value) rest
    | none => .error (.unknownUnionField p.union variant.typeName key)

/-- Settles an object whose entries are all held. -/
def finish (p : Plan) (held : Held) : Except Problem Decoded :=
  match held.selected with
  | none => .error (.ambiguousUnion p.union)
  | some variant => do
    let fields ← p.assign variant [] held.entries
    return { variant := variant.typeName, fields }

def decodeValue (p : Plan) (v : Json) : Except Problem Decoded := do
  let held ← (p.readHeld (Draft.ofJson v)).mapError .json
  p.finish held

def decode (p : Plan) (text : String) : Except Problem Decoded := do
  let held ← ((Json.read text).get p.readHeld).mapError .json
  p.finish held

/-- Decodes the items of a JSON text that is a list. All of it is read before any item is
settled. -/
def decodeList (p : Plan) (text : String) : Except Problem (List Decoded) := do
  let held ← ((Json.read text).get p.readHeldList).mapError .json
  held.mapM p.finish

/-- Values of unions are never written. -/
def encode (p : Plan) (d : Decoded) : Except Problem String :=
  .error (.notSupported
    ("serializing '" ++ p.union ++ "' (variant '" ++ d.variant ++ "') is not supported"))

end Plan

end ApiForge
