import ApiForge.Problem

/-!
The scalar types of generated code, and the table that maps the kinds and formats of schemas to
them. A pair outside the table is a problem; nothing falls back to text.
-/

namespace ApiForge

/-- A scalar type of generated code. -/
inductive Primitive where
  | int32 | int64 | float32 | float64 | bool | string | dateTime | date | time | uuid | binary
  | uri | untyped
  deriving DecidableEq, Repr

namespace Primitive

def expression : Primitive → String
  | int32 => "i32"
  | int64 => "i64"
  | float32 => "f32"
  | float64 => "f64"
  | bool => "bool"
  | string => "String"
  | dateTime => "chrono::DateTime<chrono::FixedOffset>"
  | date => "chrono::NaiveDate"
  | time => "chrono::NaiveTime"
  | uuid => "uuid::Uuid"
  | binary => "Vec<u8>"
  | uri => "url::Url"
  | untyped => "serde_json::Value"

/-- The formats of whole numbers. -/
def ofInteger : Option String → Option Primitive
  | none => some int32
  | some "int32" => some int32
  | some "int64" => some int64
  | some _ => none

/-- The formats of numbers. -/
def ofNumber : Option String → Option Primitive
  | none => some float32
  | some "float" => some float32
  | some "double" => some float64
  | some _ => none

/-- The formats of texts. -/
def ofText : Option String → Option Primitive
  | none => some string
  | some "string" => some string
  | some "date-time" => some dateTime
  | some "date" => some date
  | some "time" => some time
  | some "uuid" => some uuid
  | some "binary" => some binary
  | some "uri" => some uri
  | some _ => none

/-- The scalar type of a kind and a format. The key is that of the schema, for the problem. -/
def ofKind (kind : String) (format : Option String) (key : String) : Except Problem Primitive :=
  let withFormat (found : Option Primitive) : Except Problem Primitive :=
    match found with
    | some p => .ok p
    | none => .error (.unsupportedFormat kind (format.getD "") key)
  match kind with
  | "integer" => withFormat (ofInteger format)
  | "number" => withFormat (ofNumber format)
  | "boolean" => .ok bool
  | "string" => withFormat (ofText format)
  | "null" => .ok untyped
  | "object" => .ok untyped
  | _ => .error (.unsupportedSchemaKind kind key)

end Primitive

end ApiForge
