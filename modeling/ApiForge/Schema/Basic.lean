import ApiForge.Json.Value

/-!
Schemas. A schema has exactly one shape, decided when it is read; whatever follows asks for the
shape and never for the members that it was written with.
-/

namespace ApiForge

/-- What every schema may say about itself, whatever its shape. -/
structure Annotations where
  title : Option String := none
  description : Option String := none
  nullable : Bool := false
  deprecated : Bool := false
  default : Option Json := none
  deriving Repr, Inhabited

/-- The shape of a schema, over the schemas inside it. -/
inductive Shape (σ : Type) where
  /-- A pointer to another schema. -/
  | reference (target : String)
  /-- One of some values. -/
  | enumeration (values : List Json)
  /-- One of some schemas. -/
  | oneOf (variants : List σ)
  /-- A list, where `items` is what its items are. -/
  | array (items : Option σ)
  /-- An object with named properties, some of them required. -/
  | object (properties : List (String × σ)) (required : List String)
  /-- Anything at all. -/
  | untyped
  /-- A scalar of a kind, known or not. -/
  | primitive (kind : String) (format : Option String)
  deriving Repr

inductive Schema where
  | node (notes : Annotations) (shape : Shape Schema)
  deriving Repr

namespace Schema

instance : Inhabited Schema := ⟨.node {} .untyped⟩

def notes : Schema → Annotations
  | node n _ => n

def shape : Schema → Shape Schema
  | node _ s => s

/-- The properties of an object. -/
def properties (s : Schema) : List (String × Schema) :=
  match s.shape with
  | .object properties _ => properties
  | _ => []

def requires (s : Schema) (name : String) : Bool :=
  match s.shape with
  | .object _ required => required.contains name
  | _ => false

/-- The target of a pointer. -/
def referenceTarget (s : Schema) : Option String :=
  match s.shape with
  | .reference target => some target
  | _ => none

/-- Whether the schema is an object with properties of its own. -/
def isInlineObject (s : Schema) : Bool :=
  match s.shape with
  | .object properties _ => !properties.isEmpty
  | _ => false

/-- The word for the shape of the schema. -/
def kindLabel (s : Schema) : String :=
  match s.shape with
  | .reference _ => "$ref"
  | .enumeration _ => "enum"
  | .oneOf _ => "oneOf"
  | .array _ => "array"
  | .object _ _ => "object"
  | .untyped => "untyped"
  | .primitive kind _ => kind

mutual

/-- The number of schemas in a schema, itself among them. -/
def nodeCount : Schema → Nat
  | node _ s => countShape s + 1

def countShape : Shape Schema → Nat
  | .reference _ => 0
  | .enumeration _ => 0
  | .oneOf variants => countAll variants
  | .array none => 0
  | .array (some items) => nodeCount items
  | .object properties _ => countProperties properties
  | .untyped => 0
  | .primitive _ _ => 0

def countAll : List Schema → Nat
  | [] => 0
  | s :: rest => nodeCount s + countAll rest

def countProperties : List (String × Schema) → Nat
  | [] => 0
  | (_, s) :: rest => nodeCount s + countProperties rest

end

end Schema

end ApiForge
