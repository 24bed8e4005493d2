import ApiForge.Model.Registry
import ApiForge.Model.Type
import ApiForge.Json.Printer
import ApiForge.Name.ClassNames
import ApiForge.Name.Fresh

/-!
From schemas to types. Resolution takes no names of its own: a schema that needs a type of its
own is put down as work to be done, and whoever asked decides what becomes of that work. Main
rule: the name in a field is the name that the work put down with it will get.
-/

namespace ApiForge

/-- What resolution carries along: the class names given out and the work found. -/
structure Scope where
  names : Name.ClassNames := {}
  found : Discovered := {}

/-- A resolution, which may end in a problem. What was found before a problem stays found. -/
abbrev Resolving := ExceptT Problem (StateM Scope)

namespace Resolving

/-- Runs a resolution from some class names, with the work it finds kept apart. -/
def start {α : Type} (m : Resolving α) (names : Name.ClassNames) :
    Except Problem (α × Discovered) × Name.ClassNames :=
  match m.run.run { names } with
  | (.ok a, s) => (.ok (a, s.found), s.names)
  | (.error p, s) => (.error p, s.names)

/-- What a resolution comes to with the work it finds. A table of names answers what the derivation
of a name would, so an empty one serves. -/
def outcome {α : Type} (m : Resolving α) : Except Problem (α × Discovered) := (m.start {}).1

/-- The class name of a key. -/
def className (key : String) : Resolving String :=
  modifyGet fun s =>
    let (name, names) := s.names.nameOf key
    (name, { s with names })

/-- Puts a schema down as work. -/
def enqueue (key : String) (schema : Schema) : Resolving Unit :=
  modify fun s => { s with found := s.found ++ { pending := [⟨key, schema⟩] } }

/-- The ending of the name of a type for the items of a list. -/
def itemSuffix : String := "Item"

/-- The ending of the name of a field that would else bear the name of its type. -/
def collisionSuffix : String := "Property"

/-- The name of the union of a property. -/
def unionName (owner : String) : Resolving String := return (← className owner) ++ Name.unionSuffix

/-- Puts a union down as work and gives its name. -/
def enqueueUnion (owner : String) (variants : List Schema) : Resolving String := do
  modify fun s => { s with found := s.found ++ { unions := [⟨owner, variants⟩] } }
  unionName owner

/-- A value that may be a problem. -/
def lift {α : Type} (e : Except Problem α) : Resolving α := ExceptT.mk (pure e)

mutual

/-- The type of a property with a key and a schema. -/
def property (key : String) : Schema → Resolving ModelType
  | .node notes shape => propertyOfShape key notes shape

/-- The type of a property with a key and a schema of a shape. -/
def propertyOfShape (key : String) (notes : Annotations) : Shape Schema → Resolving ModelType
  | .reference target => return .reference (← className target)
  | .enumeration values => do
    let name ← className key
    enqueue key (.node notes (.enumeration values))
    return .reference name
  | .oneOf variants => return .reference (← enqueueUnion key variants)
  | .array none => return .array (.primitive .untyped)
  | .array (some items) => return .array (← itemsOf key items)
  | .object properties required => do
    if properties.isEmpty then return .primitive .untyped
    else
      let name ← className key
      enqueue key (.node notes (.object properties required))
      return .reference name
  | .untyped => return .primitive .untyped
  | .primitive kind format => return .primitive (← lift (Primitive.ofKind kind format key))

/-- The type of the items of a list with a key. An object gets a name of its own from the key. -/
def itemsOf (key : String) : Schema → Resolving ModelType
  | .node notes (.object properties required) => do
    if properties.isEmpty then return .primitive .untyped
    else
      let name := (← className key) ++ itemSuffix
      enqueue name (.node notes (.object properties required))
      return .reference name
  | .node notes shape => propertyOfShape key notes shape

end

/-- The field of a property, with a name that is neither used nor that of its type. -/
def fieldOf (owner : String) (required : List String) (used : List String) (wire : String)
    (schema : Schema) (type : ModelType) : ModelField :=
  let base := Name.fieldName wire
  let wanted := if base = owner then base ++ collisionSuffix else base
  { name := Name.freshBy used Name.snakeIdent wanted
    wireName := wire
    type
    required := required.contains wire
    nullable := schema.notes.nullable
    deprecated := schema.notes.deprecated
    description := schema.notes.description
    default := schema.notes.default }

/-- The fields of properties, where the identifiers in `used` are taken. -/
def fieldsFrom (owner : String) (required : List String) (used : List String) :
    List (String × Schema) → Resolving (List ModelField)
  | [] => return []
  | (wire, schema) :: rest => do
    let type ← property wire schema
    let field := fieldOf owner required used wire schema type
    let more ← fieldsFrom owner required (field.ident :: used) rest
    return field :: more

/-- The fields of a type with the properties of a schema. -/
def fields (owner : String) (schema : Schema) : Resolving (List ModelField) :=
  match schema.shape with
  | .object properties required => fieldsFrom owner required [] properties
  | _ => return []

/-- A schema as a record of a name. -/
def record (name : String) (schema : Schema) (namespaceName : String) : Resolving Record := do
  let fields ← fields name schema
  return {
    name, namespaceName, fields
    description := schema.notes.description
    deprecated := schema.notes.deprecated }

/-- The text that stands for a listed value: a text itself, any other value as it is written. -/
def valueText : Json → String
  | .str s => s
  | v => v.render

/-- A schema as an enumeration of a name. Null is not listed. -/
def enumeration (name : String) (schema : Schema) (namespaceName : String) : EnumType :=
  let values := match schema.shape with
    | .enumeration values => (values.filter (!·.isNull)).map valueText
    | _ => []
  { name, namespaceName, values, description := schema.notes.description }

/-- The type of a schema with a key: a record or an enumeration named after it, or what a property
with that key would be. -/
def resolve (key : String) (schema : Schema) (namespaceName : String) : Resolving ModelType := do
  match schema.shape with
  | .object _ _ => return .record (← record (← className key) schema namespaceName)
  | .untyped => return .record (← record (← className key) schema namespaceName)
  | .enumeration _ => return .enumeration (enumeration (← className key) schema namespaceName)
  | _ => property key schema

end Resolving

end ApiForge
