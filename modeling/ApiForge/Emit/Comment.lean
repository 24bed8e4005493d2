import ApiForge.Emit.Line
import ApiForge.Json.Printer
import ApiForge.Schema.Basic
import ApiForge.Text.Blank
import ApiForge.Text.Segment

/-!
Comments of generated code: what a document says about a type, line by line, and a description of
the schema that a unit was made from.
-/

namespace ApiForge.Emit

/-- A line of a doc comment. Blanks at the end of the text are dropped. -/
def docLine (indent : String) (line : List Char) : String :=
  match Text.trimEnd line with
  | [] => indent ++ "///"
  | text => indent ++ "/// " ++ String.ofList text

/-- A text as the lines of a doc comment. -/
def docComment (text : Option String) (indent : String) : String :=
  match text with
  | some text => lines ((Text.lines text.toList).map (docLine indent))
  | none => ""

/-- A text with blanks for its line feeds. -/
def onOneLine (s : String) : String :=
  String.ofList (s.toList.map fun c => if c = '\n' then ' ' else c)

/-- The word for a truth value. -/
def truth (b : Bool) : String := if b then "true" else "false"

def formatOf (schema : Schema) : String :=
  match schema.shape with
  | .primitive _ (some format) => format
  | _ => "N/A"

/-- The lines about the shape of a schema. -/
def shapeNotes (schema : Schema) : List String :=
  match schema.shape with
  | .enumeration values => "// Enum values:" :: values.map fun v => "// - " ++ v.render
  | .array (some items) => ["// Items type: " ++ items.kindLabel]
  | .reference target => ["// Reference: " ++ target]
  | _ => []

/-- A list with a heading, unless it is empty. -/
def listNotes (heading : String) (items : List String) : List String :=
  if items.isEmpty then [] else ("// " ++ heading ++ ":") :: items.map ("// - " ++ ·)

def propertyNotes (schema : Schema) : List String :=
  match schema.shape with
  | .object properties required =>
    listNotes "Required properties" required ++
      listNotes "Properties" (properties.map fun (name, s) => name ++ ": " ++ s.kindLabel)
  | _ => []

/-- The comment that describes a schema with a key. -/
def schemaNotes (key : String) (schema : Schema) : String :=
  let notes := schema.notes
  lines <|
    ["// Schema: " ++ key, "// Type: " ++ schema.kindLabel, "// Format: " ++ formatOf schema]
    ++ (notes.description.map fun d => "// Description: " ++ onOneLine d).toList
    ++ shapeNotes schema
    ++ (notes.default.map fun v => "// Default value: " ++ v.render).toList
    ++ ["// Nullable: " ++ truth notes.nullable, "// Deprecated: " ++ truth notes.deprecated]
    ++ propertyNotes schema

end ApiForge.Emit
