import ApiForge.Emit.Comment
import ApiForge.Model.Type
import ApiForge.Text.Literal

/-!
Units of records and of the variants of unions. Every field bears its wire name in an attribute;
a field that may be missing is read as absent, and is left out when absent unless null is a value
of its own.
-/

namespace ApiForge.Emit

/-- The line about the default value of a field, apart from a description before it. -/
def defaultNotes (f : ModelField) : String :=
  match f.default with
  | some v =>
    (if f.description.isSome then "    ///\n" else "") ++
      "    /// Default: \x60" ++ v.render ++ "\x60\n"
  | none => ""

/-- What the attribute of a field says. -/
def fieldAttributes (f : ModelField) : List String :=
  ["rename = " ++ Text.literal f.wireName]
    ++ (if f.required then [] else ["default"])
    ++ (if f.required || f.nullable then [] else ["skip_serializing_if = \"Option::is_none\""])

/-- A field with its comments and attributes. -/
def fieldBlock (f : ModelField) : String :=
  docComment f.description "    "
    ++ defaultNotes f
    ++ (if f.deprecated then "    #[deprecated]\n" else "")
    ++ "    #[serde(" ++ joined ", " (fieldAttributes f) ++ ")]\n"
    ++ "    pub " ++ f.ident ++ ": " ++ f.expression ++ ",\n"

/-- A struct with its fields, apart by blank lines. -/
def structBody (name : String) (fields : List ModelField) : String :=
  "#[derive(Debug, Clone, PartialEq, Serialize, Deserialize)]\n"
    ++ "pub struct " ++ name ++ " \x7b\n"
    ++ joined "\n" (fields.map fieldBlock)
    ++ "\x7d\n"

def recordImports : List String := [codingImport, siblingsImport]

/-- The unit of a record. The notes come before its description. -/
def recordUnit (r : Record) (notes : Option String) : String :=
  prelude r.namespaceName recordImports
    ++ notes.getD ""
    ++ docComment r.description ""
    ++ (if r.deprecated then "#[deprecated]\n" else "")
    ++ structBody r.name r.fields

/-- The attribute of a type whose name need not be in camel case. -/
def anyCase : String := "#[allow(non_camel_case_types)]\n"

def variantUnit (v : Variant) : String :=
  prelude v.namespaceName recordImports
    ++ docComment v.description ""
    ++ (if v.description.isSome then "///\n" else "")
    ++ "/// Variant of [\x60" ++ v.baseName ++ "\x60].\n"
    ++ anyCase
    ++ structBody v.name v.fields

end ApiForge.Emit
