import ApiForge.Schema.Basic

/-!
Schemas as they are written, with all the members that may or may not stand together, and the
decision which of them make the shape. A pointer comes first, then values that are listed, then
alternatives, and then the type. Main rule: a type listed together with null says the same as the
type alone with the mark of a nullable schema.
-/

namespace ApiForge

/-- The type of a schema as written: a name, or a list of names. -/
inductive TypeNames where
  | single (name : String)
  | several (names : List String)
  deriving Repr, DecidableEq

/-- A schema as written. -/
structure RawSchema where
  title : Option String := none
  description : Option String := none
  nullable : Option Bool := none
  default : Option Json := none
  deprecated : Option Bool := none
  required : Option (List String) := none
  types : Option TypeNames := none
  format : Option String := none
  reference : Option String := none
  properties : Option (List (String × RawSchema)) := none
  enumeration : Option (List Json) := none
  items : Option RawSchema := none
  oneOf : Option (List RawSchema) := none

namespace TypeNames

/-- The name of the type that stands for a schema without a value. -/
def nullName : String := "null"

/-- The one type that counts: of a list, the first that is not null. -/
def kind : TypeNames → Option String
  | single name => some name
  | several names => names.find? (· != nullName)

/-- Whether a list of types allows null. -/
def allowsNull : TypeNames → Bool
  | single _ => false
  | several names => names.contains nullName

end TypeNames

namespace Shape

/-- The shape that a type makes, with the members that matter to it. -/
def ofKind {σ : Type} (kind : Option String) (format : Option String) (items : Option σ)
    (properties : List (String × σ)) (required : List String) : Shape σ :=
  match kind with
  | some "array" => .array items
  | some "object" => .object properties required
  | some other => .primitive other format
  | none => if properties.isEmpty then .untyped else .object properties required

/-- The shape that the members of a schema make together. -/
def decide {σ : Type} (reference : Option String) (values : List Json) (variants : List σ)
    (byKind : Shape σ) : Shape σ :=
  match reference with
  | some target => .reference target
  | none =>
    if !values.isEmpty then .enumeration values
    else if !variants.isEmpty then .oneOf variants
    else byKind

end Shape

namespace RawSchema

/-- What a raw schema says about itself. -/
def annotations (raw : RawSchema) : Annotations :=
  { title := raw.title
    description := raw.description
    nullable := raw.nullable.getD false || (raw.types.map (·.allowsNull)).getD false
    deprecated := raw.deprecated.getD false
    default := raw.default }

end RawSchema

namespace Schema

mutual

/-- The schema that a raw one means. -/
def ofRaw : RawSchema → Schema
  | ⟨title, description, nullable, default, deprecated, required, types, format, reference,
      properties, enumeration, items, oneOf⟩ =>
    .node
      (RawSchema.annotations
        { title, description, nullable, default, deprecated, required, types, format, reference,
          properties, enumeration, items, oneOf })
      (Shape.decide reference (enumeration.getD []) (ofVariants oneOf)
        (Shape.ofKind (types.bind (·.kind)) format (ofItems items) (ofProperties properties)
          (required.getD [])))

/-- The schemas of the alternatives. -/
def ofVariants : Option (List RawSchema) → List Schema
  | none => []
  | some variants => ofRaws variants

def ofRaws : List RawSchema → List Schema
  | [] => []
  | raw :: rest => ofRaw raw :: ofRaws rest

def ofItems : Option RawSchema → Option Schema
  | none => none
  | some raw => some (ofRaw raw)

def ofProperties : Option (List (String × RawSchema)) → List (String × Schema)
  | none => []
  | some properties => ofMembers properties

def ofMembers : List (String × RawSchema) → List (String × Schema)
  | [] => []
  | (name, raw) :: rest => (name, ofRaw raw) :: ofMembers rest

end

end Schema

end ApiForge
