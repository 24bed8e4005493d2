import ApiForge.Entries
import ApiForge.Name.Key
import ApiForge.Schema.Basic

/-!
API documents: what an API is called, the operations on its paths, and the schemas they share.
-/

namespace ApiForge

/-- The verbs of operations. -/
inductive Verb where
  | get | post | put | delete | patch | head | options | trace
  deriving DecidableEq, Repr

namespace Verb

/-- The verbs in the order in which the operations of a path are taken. -/
def all : List Verb := [get, post, put, delete, patch, head, options, trace]

/-- The verb in capitals. -/
def name : Verb → String
  | get => "GET"
  | post => "POST"
  | put => "PUT"
  | delete => "DELETE"
  | patch => "PATCH"
  | head => "HEAD"
  | options => "OPTIONS"
  | trace => "TRACE"

/-- The verb as the first word of a name. -/
def word : Verb → String
  | get => "Get"
  | post => "Post"
  | put => "Put"
  | delete => "Delete"
  | patch => "Patch"
  | head => "Head"
  | options => "Options"
  | trace => "Trace"

/-- The verb as it stands in a document. -/
def member : Verb → String
  | get => "get"
  | post => "post"
  | put => "put"
  | delete => "delete"
  | patch => "patch"
  | head => "head"
  | options => "options"
  | trace => "trace"

end Verb

structure Parameter where
  name : String
  /-- Where the parameter goes: in the path, the query, a header or a cookie. -/
  location : String
  description : Option String := none
  required : Bool := false
  deprecated : Bool := false
  schema : Option Schema := none

/-- A payload in one format. -/
structure MediaType where
  schema : Option Schema := none

/-- Payloads by media type. -/
abbrev Content := Entries MediaType

/-- The media type to use: the first one of JSON, or else the first one. -/
def Content.preferred (content : Content) : Option (String × MediaType) :=
  (content.find? fun (media, _) =>
    media.startsWith "application/json" || media.endsWith "+json").or content.head?

/-- The schema of the payload to use. -/
def Content.schema (content : Content) : Option Schema :=
  content.preferred.bind fun (_, media) => media.schema

structure RequestBody where
  description : Option String := none
  required : Bool := false
  content : Content := []

structure Response where
  description : Option String := none
  content : Content := []

/-- The number that a status writes, with an optional plus sign before its digits. -/
def statusNumber (status : String) : Option Nat :=
  let digits := match status.toList with
    | '+' :: rest => rest
    | all => all
  if digits.isEmpty || !digits.all Char.isDigit then none
  else some (digits.foldl (fun n c => n * 10 + (c.toNat - 48)) 0)

/-- Whether a status is one of success other than plain success. -/
def isOtherSuccess (status : String) : Bool :=
  match statusNumber status with
  | some n => 201 ≤ n && n ≤ 299
  | none => false

/-- The response of success: that of status 200, or else the first other one. -/
def selectResponse (responses : Entries Response) : Option (String × Response) :=
  match responses.get? "200" with
  | some response => some ("200", response)
  | none => responses.find? fun (status, _) => isOtherSuccess status

structure Operation where
  operationId : Option String := none
  summary : Option String := none
  description : Option String := none
  deprecated : Bool := false
  parameters : List Parameter := []
  requestBody : Option RequestBody := none
  responses : Entries Response := []

/-- The operations of a path, and the parameters they share. -/
structure PathItem where
  declared : List (Verb × Operation) := []
  parameters : List Parameter := []

/-- The operations of a path in the order of their verbs. -/
def PathItem.operations (item : PathItem) : List (Verb × Operation) :=
  Verb.all.filterMap fun verb => (item.declared.lookup verb).map (verb, ·)

/-- What the API is called. -/
structure Info where
  title : String
  version : String
  summary : Option String := none
  description : Option String := none
  deriving Repr

namespace Info

/-- The first character of the version. -/
def versionTag (info : Info) : String := String.ofList (info.version.toList.take 1)

open Name in
def namespaceName (info : Info) : String :=
  titleCase (className info.title) ++ "ApiClientV" ++ info.versionTag

/-- The namespace of the generated models. -/
def modelsNamespace (info : Info) : String := info.namespaceName ++ ".Models"

open Name in
/-- The name of the client of the paths that begin with a segment. -/
def clientName (info : Info) (segment : String) : String :=
  titleCase (className segment) ++ "ClientV" ++ info.versionTag

end Info

structure Document where
  openapi : String
  info : Info
  paths : Entries PathItem := []
  schemas : Entries Schema := []

end ApiForge
