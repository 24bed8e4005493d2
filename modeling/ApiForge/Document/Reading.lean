import ApiForge.Document.Basic
import ApiForge.Json.Printer
import ApiForge.Json.Reader
import ApiForge.Problem
import ApiForge.Schema.Reading

/-!
Reading API documents from drafts. The items of the paths are first read as plain values, whatever
the format of the text, and then taken apart one by one.
-/

namespace ApiForge

namespace Parameter

/-- A parameter of which only some members were read. -/
structure Partial where
  name : Option String := none
  location : Option String := none
  rest : Parameter := { name := "", location := "" }

def layout : Layout :=
  { names := ["name", "in", "description", "required", "deprecated", "schema"], needed := 6 }

def setMember (p : Partial) (name : String) (d : Draft) : Except Fault Partial :=
  match name with
  | "name" => return { p with name := some (← d.text) }
  | "in" => return { p with location := some (← d.text) }
  | "description" =>
    return { p with rest := { p.rest with description := ← d.optional Draft.text } }
  | "required" => return { p with rest := { p.rest with required := ← d.flag } }
  | "deprecated" => return { p with rest := { p.rest with deprecated := ← d.flag } }
  | "schema" => return { p with rest := { p.rest with schema := ← d.optional Schema.read } }
  | _ => .error .misshapen

/-- Reads a parameter, which has a name and a location. -/
def read (d : Draft) : Except Fault Parameter := do
  let p ← d.record layout {} setMember
  match p.name, p.location with
  | some name, some location => return { p.rest with name, location }
  | _, _ => .error .misshapen

end Parameter

def MediaType.read (d : Draft) : Except Fault MediaType :=
  d.record ⟨["schema"], 1⟩ {} fun media name d =>
    match name with
    | "schema" => return { media with schema := ← d.optional Schema.read }
    | _ => .error .misshapen

def RequestBody.read (d : Draft) : Except Fault RequestBody :=
  d.record ⟨["description", "required", "content"], 1⟩ {} fun body name d =>
    match name with
    | "description" => return { body with description := ← d.optional Draft.text }
    | "required" => return { body with required := ← d.flag }
    | "content" => return { body with content := ← d.tableOf MediaType.read }
    | _ => .error .misshapen

def Response.read (d : Draft) : Except Fault Response :=
  d.record ⟨["description", "content"], 1⟩ {} fun response name d =>
    match name with
    | "description" => return { response with description := ← d.optional Draft.text }
    | "content" => return { response with content := ← d.tableOf MediaType.read }
    | _ => .error .misshapen

/-- Reads a status, which is a text or a whole number that is not negative. -/
def readStatus (d : Draft) : Except Fault String := do
  match ← d.value with
  | .str s => return s
  | .int n => if 0 ≤ n then return toString n else .error .misshapen
  | _ => .error .misshapen

/-- Reads a table whose keys are statuses. -/
def Draft.statusTableOf {α : Type} (read : Draft → Except Fault α) (d : Draft) :
    Except Fault (Entries α) := do
  (← d.entries).foldlM (fun t (k, v) => do
    let status ← readStatus k
    return t.put status (← read v)) []

namespace Operation

def layout : Layout :=
  { names := ["operationId", "summary", "description", "deprecated", "parameters", "requestBody",
      "responses"]
    needed := 6 }

def setMember (op : Operation) (name : String) (d : Draft) : Except Fault Operation :=
  match name with
  | "operationId" => return { op with operationId := ← d.optional Draft.text }
  | "summary" => return { op with summary := ← d.optional Draft.text }
  | "description" => return { op with description := ← d.optional Draft.text }
  | "deprecated" => return { op with deprecated := ← d.flag }
  | "parameters" => return { op with parameters := ← d.listOf Parameter.read }
  | "requestBody" => return { op with requestBody := ← d.optional RequestBody.read }
  | "responses" => return { op with responses := ← d.statusTableOf Response.read }
  | _ => .error .misshapen

def read (d : Draft) : Except Fault Operation := d.record layout {} setMember

end Operation

namespace PathItem

def layout : Layout :=
  { names := Verb.all.map Verb.member ++ ["parameters"], needed := 8 }

def setMember (item : PathItem) (name : String) (d : Draft) : Except Fault PathItem :=
  match Verb.all.find? (·.member = name) with
  | some verb => do
    match ← d.optional Operation.read with
    | some op => return { item with declared := item.declared ++ [(verb, op)] }
    | none => return item
  | none => return { item with parameters := ← d.listOf Parameter.read }

def read (d : Draft) : Except Fault PathItem := d.record layout {} setMember

end PathItem

/-- Reads the schemas of the components. -/
def readComponents (d : Draft) : Except Fault (Entries Schema) :=
  d.record ⟨["schemas"], 0⟩ [] fun _ _ d => d.tableOf Schema.read

/-- Whether a key is an extension rather than a path. -/
def isExtension (key : String) : Bool := key.startsWith "x-"

/-- Reads the paths, leaving extensions out. -/
def readPaths (d : Draft) : Except Fault (Entries PathItem) := do
  let raw ← d.tableOf Draft.value
  (raw.filter fun (key, _) => !isExtension key).mapM fun (key, v) =>
    match PathItem.read (Draft.ofJson v) with
    | .ok item => .ok (key, item)
    | .error _ => .error (.pathItem key)

/-- Reads a text that may have been written as a number or any other value. -/
def readLenient (d : Draft) : Except Fault (Option String) := do
  match ← d.optional Draft.value with
  | none => return none
  | some .null => return none
  | some (.str s) => return some s
  | some v => return some v.render

/-- What a document says about the API, as written. -/
structure RawInfo where
  title : Option String := none
  summary : Option String := none
  description : Option String := none
  version : Option String := none

def RawInfo.read (d : Draft) : Except Fault RawInfo :=
  d.record ⟨["title", "summary", "description", "version"], 3⟩ {} fun info name d =>
    match name with
    | "title" => return { info with title := ← d.optional Draft.text }
    | "summary" => return { info with summary := ← d.optional Draft.text }
    | "description" => return { info with description := ← d.optional Draft.text }
    | "version" => return { info with version := ← readLenient d }
    | _ => .error .misshapen

/-- A document as written. -/
structure RawDocument where
  openapi : Option String := none
  info : Option RawInfo := none
  paths : Entries PathItem := []
  components : Option (Entries Schema) := none

def RawDocument.read (d : Draft) : Except Fault RawDocument :=
  d.record ⟨["openapi", "info", "paths", "components"], 4⟩ {} fun doc name d =>
    match name with
    | "openapi" => return { doc with openapi := ← readLenient d }
    | "info" => return { doc with info := ← d.optional RawInfo.read }
    | "paths" => return { doc with paths := ← readPaths d }
    | "components" => return { doc with components := ← d.optional readComponents }
    | _ => .error .misshapen

/-- A field that must be there and not empty. -/
def requireField (field : String) (value : Option String) : Except Problem String :=
  match value with
  | some s => if s.isEmpty then .error (.missingDocumentField field) else .ok s
  | none => .error (.missingDocumentField field)

/-- The document that a raw one means, if it has all that nothing can start without. -/
def Document.ofRaw (raw : RawDocument) : Except Problem Document := do
  let openapi ← requireField "openapi" raw.openapi
  match raw.info with
  | none => .error (.missingDocumentField "info")
  | some info =>
    let title ← requireField "info.title" info.title
    let version ← requireField "info.version" info.version
    return {
      openapi
      info := { title, version, summary := info.summary, description := info.description }
      paths := raw.paths
      schemas := raw.components.getD [] }

end ApiForge
