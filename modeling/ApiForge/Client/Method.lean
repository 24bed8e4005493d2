import ApiForge.Client.Payload
import ApiForge.Client.Statement
import ApiForge.Client.UrlTemplate
import ApiForge.Model.Resolution

/-!
Planning the methods of a client. A method is named after the verb and the path of its operation.
Its arguments are the parameters of the operation and of its path, and the body; what must be
given comes first.
-/

namespace ApiForge.Client

/-- Where an argument goes. -/
inductive Place where
  | path | query | header | body
  deriving DecidableEq, Repr

structure Argument where
  ident : String
  /-- The name on the wire; a body has none. -/
  wire : String
  /-- The type expression. -/
  type : String
  place : Place
  required : Bool
  /-- Whether the argument is a list that goes item by item. -/
  repeated : Bool
  description : Option String
  deriving DecidableEq, Repr

namespace Argument

def declaration (a : Argument) : String :=
  a.ident ++ ": " ++ if a.required then a.type else "Option<" ++ a.type ++ ">"

/-- How an argument goes into a request. -/
def binding (a : Argument) : Binding := ⟨a.wire, a.ident, !a.required, a.repeated⟩

end Argument

/-- An operation with its path and verb. -/
structure Endpoint where
  path : String
  item : PathItem
  verb : Verb
  operation : Operation

structure Method where
  name : String
  endpoint : Endpoint
  /-- The status of the answer that the method is about. -/
  status : String
  arguments : List Argument
  /-- Headers with fixed values. -/
  constantHeaders : List (String × String)
  urlTemplate : String
  /-- The arguments that fill the template, in order. -/
  pathArguments : List String
  payload : Payload
  /-- The types of the arguments and of what the method gives back. -/
  types : List ModelType

/-- The header that bears the version of the document instead of an argument. -/
def versionHeader : String := "api-version"

/-- The names that the statements of a method use themselves. -/
def reservedIdents : List String := ["url", "request", "response", "bytes", "value", "values"]

/-- The statuses of answers that may come without a body. -/
def bodilessStatuses : List String := ["201", "202", "204"]

/-- The name that an argument wants. -/
def wantedIdent (ident : String) : String :=
  if reservedIdents.contains ident then ident ++ "_param" else ident

/-- The parameters that count for an operation: those of its path that it does not declare anew,
and its own. -/
def Endpoint.parameters (e : Endpoint) : List Parameter :=
  e.item.parameters.filter (fun shared => !e.operation.parameters.any fun p =>
    p.name == shared.name && p.location == shared.location) ++ e.operation.parameters

/-- Two texts are the same up to the case of ASCII letters. -/
def sameIgnoringCase (a b : String) : Bool :=
  a.toList.map Char.toLower == b.toList.map Char.toLower

/-- What becomes of a parameter. -/
inductive Role where
  | argument (place : Place)
  | versionHeader
  | dropped
  deriving DecidableEq, Repr

/-- The role of a parameter by its location. -/
def roleOf (p : Parameter) : Role :=
  match p.location with
  | "path" => .argument .path
  | "query" => .argument .query
  | "header" => if sameIgnoringCase p.name versionHeader then .versionHeader else .argument .header
  | _ => .dropped

/-- The type of a parameter; without a schema it is a text. -/
def parameterType (p : Parameter) : Resolving ModelType :=
  match p.schema with
  | some schema => Resolving.property p.name schema
  | none => return .primitive .string

def parameterArgument (used : List String) (p : Parameter) (place : Place) (type : ModelType) :
    Argument :=
  { ident := Name.fresh used (wantedIdent (Name.snakeIdent p.name))
    wire := p.name
    type := type.expression
    place
    required := place = .path || p.required
    repeated := match type with
      | .array _ => true
      | _ => false
    description := p.description }

/-- The arguments of parameters with their types, where the identifiers in `used` are taken. -/
def parameterArguments (used : List String) :
    List Parameter → Resolving (List (Argument × ModelType))
  | [] => return []
  | p :: rest =>
    match roleOf p with
    | .argument place => do
      let type ← parameterType p
      let argument := parameterArgument used p place type
      let more ← parameterArguments (argument.ident :: used) rest
      return (argument, type) :: more
    | _ => parameterArguments used rest

def versionHeaders (info : Info) (ps : List Parameter) : List (String × String) :=
  (ps.filter (roleOf · = .versionHeader)).map fun p => (p.name, info.version)

/-- The identifier that a body wants: that of its type if the document names it. -/
def bodyIdent (schema : Schema) (type : ModelType) : String :=
  match type, schema.referenceTarget with
  | .reference name, some _ => Name.snakeIdent name
  | _, _ => "body"

def bodyArgument (used : List String) (key : String) (body : RequestBody) :
    Resolving (List (Argument × ModelType)) :=
  match Content.schema body.content with
  | none => return []
  | some schema => do
    let type ← Resolving.property key schema
    return [({
      ident := Name.fresh used (wantedIdent (bodyIdent schema type))
      wire := ""
      type := type.expression
      place := .body
      required := body.required
      repeated := false
      description := body.description }, type)]

/-- The arguments with those that must be given first, otherwise in order. -/
def requiredFirst (arguments : List Argument) : List Argument :=
  arguments.filter (·.required) ++ arguments.filter (!·.required)

/-- The identifier of the path argument of a placeholder. -/
def pathArgument? (arguments : List Argument) (name : String) : Option String :=
  (arguments.find? fun a => a.place = .path && a.wire == name).map (·.ident)

/-- What a method gives back, with its type. -/
def responsePayload (key status : String) (response : Response) :
    Resolving (Payload × List ModelType) :=
  match Content.schema response.content with
  | none => return (.empty, [])
  | some schema => do
    let type ← Resolving.property key schema
    let payload :=
      if bodilessStatuses.contains status || schema.notes.nullable
      then Payload.optionalJson type.expression
      else Payload.json type.expression
    return (payload, [type])

/-- Plans the method of an operation; none without an answer of success. -/
def planMethod (info : Info) (e : Endpoint) : Resolving (Option Method) :=
  match selectResponse e.operation.responses with
  | none => return none
  | some (status, response) => do
    let stem := e.verb.word ++ Name.titleCase (Name.methodStem e.path)
    let given ← parameterArguments [] e.parameters
    let used := given.map (·.1.ident)
    let body ← match e.operation.requestBody with
      | some body => bodyArgument used (stem ++ "Request") body
      | none => pure []
    let all := given ++ body
    let arguments := requiredFirst (all.map (·.1))
    let (template, pathArguments) := urlTemplate e.path (pathArgument? arguments)
    let (payload, responseTypes) ← responsePayload (stem ++ "Response") status response
    return some {
      name := Name.snakeIdent stem
      endpoint := e
      status
      arguments
      constantHeaders := versionHeaders info e.parameters
      urlTemplate := template
      pathArguments
      payload
      types := all.map (·.2) ++ responseTypes }

end ApiForge.Client
