import ApiForge.Json.Value
import ApiForge.Model.Primitive
import ApiForge.Name.Identifier

/-!
The types of generated code. Records, enumerations, and the markers and variants of unions have
names and units of their own; scalars, references and lists occur inside them.
-/

namespace ApiForge

/-- A field of a record or variant, over the types that fields have. -/
structure Field (τ : Type) where
  /-- The in-code name, in title case. -/
  name : String
  /-- The name on the wire. -/
  wireName : String
  type : τ
  required : Bool := false
  nullable : Bool := false
  deprecated : Bool := false
  description : Option String := none
  default : Option Json := none
  /-- Whether the field is held through a pointer, because it closes a cycle. -/
  boxed : Bool := false
  deriving Repr

/-- An object type. -/
structure RecordType (τ : Type) where
  name : String
  namespaceName : String
  fields : List (Field τ)
  description : Option String := none
  deprecated : Bool := false
  deriving Repr

/-- A type of a fixed number of texts. -/
structure EnumType where
  name : String
  namespaceName : String
  values : List String
  description : Option String := none
  deriving Repr, DecidableEq

/-- The common type of the variants of a union. -/
structure UnionMarker where
  name : String
  namespaceName : String
  variants : List String
  deriving Repr, DecidableEq

/-- One of the types of a union. -/
structure UnionVariant (τ : Type) where
  name : String
  namespaceName : String
  /-- The name of the marker that it belongs to. -/
  baseName : String
  fields : List (Field τ)
  description : Option String := none
  deriving Repr

/-- A type of generated code. -/
inductive ModelType where
  | primitive (p : Primitive)
  | reference (name : String)
  | array (item : ModelType)
  | record (r : RecordType ModelType)
  | enumeration (e : EnumType)
  | marker (m : UnionMarker)
  | variant (v : UnionVariant ModelType)
  deriving Repr

/-- A field of generated code. -/
abbrev ModelField := Field ModelType

/-- A record of generated code. -/
abbrev Record := RecordType ModelType

/-- A variant of generated code. -/
abbrev Variant := UnionVariant ModelType

namespace ModelType

instance : Inhabited ModelType := ⟨.primitive .untyped⟩

def expression : ModelType → String
  | primitive p => p.expression
  | reference name => name
  | array item => "Vec<" ++ expression item ++ ">"
  | record r => r.name
  | enumeration e => e.name
  | marker m => m.name
  | variant v => v.name

/-- The name of a type that has a unit of its own. -/
def name? : ModelType → Option String
  | primitive _ => none
  | reference _ => none
  | array _ => none
  | record r => some r.name
  | enumeration e => some e.name
  | marker m => some m.name
  | variant v => some v.name

/-- The fields of a record or variant. -/
def fields : ModelType → List ModelField
  | record r => r.fields
  | variant v => v.fields
  | _ => []

mutual

/-- The names of all types that a type points at, also through lists. -/
def referencedNames : ModelType → List String
  | primitive _ => []
  | reference name => [name]
  | array item => referencedNames item
  | record ⟨_, _, fields, _, _⟩ => fieldReferences fields
  | enumeration _ => []
  | marker m => m.variants
  | variant ⟨_, _, _, fields, _⟩ => fieldReferences fields

/-- The names of all types that fields point at. -/
def fieldReferences : List (Field ModelType) → List String
  | [] => []
  | ⟨_, _, type, _, _, _, _, _, _⟩ :: rest => referencedNames type ++ fieldReferences rest

end

end ModelType

namespace Field

def ident {τ : Type} (f : Field τ) : String := Name.snakeIdent f.name

/-- The identifier of a field without the mark of a raw one, as tables hold it. -/
def plainIdent {τ : Type} (f : Field τ) : String := Name.plainIdent f.ident

/-- The name of the type that a field holds by value, if that has a unit of its own. -/
def inlineTarget (f : ModelField) : Option String :=
  match f.type with
  | .reference name => some name
  | _ => none

def expression (f : ModelField) : String :=
  let held := if f.boxed then "Box<" ++ f.type.expression ++ ">" else f.type.expression
  if f.nullable || !f.required then "Option<" ++ held ++ ">" else held

end Field

/-- The names of the types that a type holds by value: through fields outside of lists, and as the
variants of a marker. -/
def ModelType.inlineReferences : ModelType → List String
  | marker m => m.variants
  | t => t.fields.filterMap Field.inlineTarget

end ApiForge
