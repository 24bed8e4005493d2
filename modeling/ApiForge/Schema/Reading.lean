import ApiForge.Draft.Record
import ApiForge.Schema.Raw

/-!
Reading schemas from drafts. Every member may be missing or null.
-/

namespace ApiForge

namespace TypeNames

/-- The texts of a list of values, if they are all texts. -/
def textsOf : List Json → Option (List String)
  | [] => some []
  | .str s :: rest => (textsOf rest).map (s :: ·)
  | _ => none

/-- Reads a type, which is a text or a list of texts. -/
def read (d : Draft) : Except Fault TypeNames := do
  match ← d.value with
  | .str name => return .single name
  | .arr items =>
    match textsOf items with
    | some names => return .several names
    | none => .error .misshapen
  | _ => .error .misshapen

end TypeNames

namespace RawSchema

def layout : Layout :=
  { names := ["title", "description", "example", "nullable", "default", "deprecated", "required",
      "type", "format", "$ref", "properties", "enum", "items", "oneOf"]
    needed := 14 }

/-- Reads a member of a schema, where `read` reads the schemas inside it. -/
def setMember (read : Draft → Except Fault RawSchema) (raw : RawSchema) (name : String)
    (d : Draft) : Except Fault RawSchema :=
  match name with
  | "title" => return { raw with title := ← d.optional Draft.text }
  | "description" => return { raw with description := ← d.optional Draft.text }
  | "example" => do let _ ← d.optional Draft.value; return raw
  | "nullable" => return { raw with nullable := ← d.optional Draft.flag }
  | "default" => return { raw with default := ← d.optional Draft.value }
  | "deprecated" => return { raw with deprecated := ← d.optional Draft.flag }
  | "required" => return { raw with required := ← d.optional (Draft.listOf Draft.text) }
  | "type" => return { raw with types := ← d.optional TypeNames.read }
  | "format" => return { raw with format := ← d.optional Draft.text }
  | "$ref" => return { raw with reference := ← d.optional Draft.text }
  | "properties" => return { raw with properties := ← d.optional (Draft.tableOf read) }
  | "enum" => return { raw with enumeration := ← d.optional (Draft.listOf Draft.value) }
  | "items" => return { raw with items := ← d.optional read }
  | "oneOf" => return { raw with oneOf := ← d.optional (Draft.listOf read) }
  | _ => .error .misshapen

/-- Reads a schema that nests no deeper than `depth`. -/
def readWithin : Nat → Draft → Except Fault RawSchema
  | 0, d => d.record layout {} (setMember fun _ => .error .misshapen)
  | depth + 1, d => d.record layout {} (setMember (readWithin depth))

/-- Reads a schema. The schemas inside it nest no deeper than its draft. -/
def read (d : Draft) : Except Fault RawSchema := readWithin d.height d

end RawSchema

/-- Reads a schema and decides its shape. -/
def Schema.read (d : Draft) : Except Fault Schema := Schema.ofRaw <$> RawSchema.read d

end ApiForge
