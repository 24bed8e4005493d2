import ApiForge.Emit.Line
import ApiForge.Name.Identifier
import ApiForge.Text.Literal
import ApiForge.Text.Segment
import ApiForge.Union.Plan

/-!
Units that decode unions: the table of a plan and code that works through it. The code is fixed
but for the name of the marker, the name of the table, and an arm for each variant.
-/

namespace ApiForge.Emit

/-- The place of the name of the marker. -/
def markerMark : String := "__BASE__"

/-- The place of the name of the table. -/
def tableMark : String := "__TABLE__"

/-- The place of the arms. -/
def armsMark : String := "__ARMS__"

/-- The lines of the fixed code that decodes an object entry by entry. -/
def codecTemplateLines : List String := [
  "impl<'de> Deserialize<'de> for __BASE__ ⟨",
  "    fn deserialize<D>(deserializer: D) -> std::result::Result<Self, D::Error>",
  "    where",
  "        D: Deserializer<'de>,",
  "    ⟨",
  "        struct PlanVisitor;",
  "",
  "        impl<'de> Visitor<'de> for PlanVisitor ⟨",
  "            type Value = __BASE__;",
  "",
  "            fn expecting(&self, f: &mut std::fmt::Formatter<'_>) -> std::fmt::Result ⟨",
  "                f.write_str(\"an object matching one variant of __BASE__\")",
  "            ⟩",
  "",
  "            fn visit_map<A>(self, mut map: A) -> std::result::Result<Self::Value, A::Error>",
  "            where",
  "                A: MapAccess<'de>,",
  "            ⟨",
  "                let mut selected: Option<usize> = None;",
  "                let mut held: Vec<(String, serde_json::Value)> = Vec::new();",
  "                while let Some(key) = map.next_key::<String>()? ⟨",
  "                    let value = map.next_value::<serde_json::Value>()?;",
  "                    if selected.is_none() ⟨",
  "                        selected = __TABLE__.iter().position(|(_, fields)| ⟨",
  "                            fields.iter().any(|(name, wire)| *name == key || *wire == key)",
  "                        ⟩);",
  "                    ⟩",
  "                    held.push((key, value));",
  "                ⟩",
  "",
  "                let index = selected.ok_or_else(|| ⟨",
  "                    <A::Error as de::Error>::custom(",
  "                        \"Could not determine the variant of '__BASE__': "
    ++ "no property matched any variant\",",
  "                    )",
  "                ⟩)?;",
  "                let (variant, fields) = __TABLE__[index];",
  "",
  "                let mut object = serde_json::Map::new();",
  "                for (key, value) in held ⟨",
  "                    let wire = fields",
  "                        .iter()",
  "                        .find(|(name, _)| *name == key)",
  "                        .or_else(|| fields.iter().find(|(_, wire)| *wire == key))",
  "                        .map(|(_, wire)| *wire)",
  "                        .ok_or_else(|| ⟨",
  "                            <A::Error as de::Error>::custom(format!(",
  "                                \"Property '⟨⟩' not found in variant '⟨⟩' of '__BASE__'\",",
  "                                key, variant",
  "                            ))",
  "                        ⟩)?;",
  "                    object.insert(wire.to_string(), value);",
  "                ⟩",
  "                let value = serde_json::Value::Object(object);",
  "",
  "                match index ⟨",
  "__ARMS__                    _ => Err(de::Error::custom(\"variant index out of range\")),",
  "                ⟩",
  "            ⟩",
  "        ⟩",
  "",
  "        deserializer.deserialize_map(PlanVisitor)",
  "    ⟩",
  "⟩",
  "",
  "impl Serialize for __BASE__ ⟨",
  "    fn serialize<S>(&self, _serializer: S) -> std::result::Result<S::Ok, S::Error>",
  "    where",
  "        S: Serializer,",
  "    ⟨",
  "        Err(ser::Error::custom(",
  "            \"Not supported: serializing '__BASE__' is not supported\",",
  "        ))",
  "    ⟩",
  "⟩"]

def codecTemplate : String := codeLines codecTemplateLines

/-- A text with every occurrence of a mark filled. -/
def fill (mark filling text : String) : String :=
  String.ofList (Text.replaceAll mark.toList filling.toList text.toList)

def tableName (marker : String) : String := Name.shoutCase marker ++ "_VARIANTS"

/-- The table of a variant as a line of code. -/
def tableEntry (t : VariantTable) : String :=
  let fields := t.fields.map fun f =>
    "(" ++ Text.literal f.name ++ ", " ++ Text.literal f.wire ++ ")"
  "    (" ++ Text.literal t.typeName ++ ", &[" ++ joined ", " fields ++ "]),"

/-- The arm of a variant by its number. -/
def arm (marker : String) (index : Nat) (t : VariantTable) : String :=
  lines [
    "                    " ++ toString index ++ " => serde_json::from_value(value)",
    "                        .map(" ++ marker ++ "::" ++ t.typeName ++ ")",
    "                        .map_err(de::Error::custom),"]

def codecImports : List String := [
  "use serde::de::⟨self, Deserializer, MapAccess, Visitor⟩;",
  "use serde::ser::⟨self, Serializer⟩;",
  codingImport,
  siblingsImport]

/-- The unit that decodes the union of a plan. -/
def codecUnit (p : Plan) (namespaceName : String) : String :=
  let table := tableName p.union
  let arms := String.join (p.variants.mapIdx (arm p.union))
  prelude namespaceName codecImports
    ++ "/// \x60(variant, [(field, wire name)])\x60 for every variant of [\x60" ++ p.union
    ++ "\x60], in declaration order.\n"
    ++ "const " ++ table ++ ": &[(&str, &[(&str, &str)])] = &[\n"
    ++ lines (p.variants.map tableEntry)
    ++ "];\n\n"
    ++ fill armsMark arms (fill tableMark table (fill markerMark p.union codecTemplate))

end ApiForge.Emit
