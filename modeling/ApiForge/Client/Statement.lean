import ApiForge.Client.Payload
import ApiForge.Document.Basic
import ApiForge.Emit.Line
import ApiForge.Text.Literal

/-!
The statements of a method, which build a request step by step, send it, and take the answer
apart. Every step binds the request anew.
-/

namespace ApiForge.Client

open Emit Text

/-- How an argument goes into a request. -/
structure Binding where
  /-- The name on the wire. -/
  wire : String
  ident : String
  /-- Whether the argument may be left out. -/
  optional : Bool
  /-- Whether the argument is a list. -/
  repeated : Bool
  deriving DecidableEq, Repr

/-- A line of a method's body. -/
def bodyLine (code : String) : String := "        " ++ code ++ "\n"

/-- Binds the request anew. -/
def bindRequest (value : String) : String := bodyLine ("let request = " ++ value ++ ";")

/-- Binds the request anew if an argument is there, which is then known by another name. -/
def bindOptional (ident bound value : String) : String :=
  bodyLine ("let request = match &" ++ ident ++ " \x7b")
    ++ bodyLine ("    Some(" ++ bound ++ ") => " ++ value ++ ",")
    ++ bodyLine "    None => request,"
    ++ bodyLine "\x7d;"

/-- The address, from a template with a pair of braces for each path argument. -/
def urlStatement (template : String) (pathArguments : List String) : String :=
  bodyLine ("let url = format!(" ++ literal ("\x7b\x7d" ++ template) ++ ", "
    ++ joined ", " ("self.base_url" :: pathArguments.map fun a => "param_value(&" ++ a ++ ")")
    ++ ");")

/-- The request of a verb. -/
def requestStatement (verb : Verb) : String :=
  bindRequest ("self.http.request(reqwest::Method::" ++ verb.name ++ ", url)")

/-- An argument as it is handed on when it is there: a list as it is, any other by reference. -/
def Binding.source (b : Binding) : String := if b.repeated then b.ident else "&" ++ b.ident

/-- The request with a value in its query; a list is put there item by item. -/
def Binding.queried (b : Binding) (source : String) : String :=
  if b.repeated then
    source ++ ".iter().fold(request, |request, value| request.query(&[("
      ++ literal b.wire ++ ", value)]))"
  else "request.query(&[(" ++ literal b.wire ++ ", " ++ source ++ ")])"

def queryStatement (b : Binding) : String :=
  if b.optional then
    let bound := if b.repeated then "values" else "value"
    bindOptional b.ident bound (b.queried bound)
  else bindRequest (b.queried b.source)

/-- The text of a value in a header; the items of a list are joined by commas. -/
def Binding.headerText (b : Binding) (source : String) : String :=
  if b.repeated then
    source ++ ".iter().map(|value| param_value(value)).collect::<Vec<_>>().join(\",\")"
  else "param_value(" ++ source ++ ")"

/-- The request with a header of some text. -/
def withHeader (wire text : String) : String :=
  "request.header(" ++ literal wire ++ ", " ++ text ++ ")"

def headerStatement (b : Binding) : String :=
  if b.optional then bindOptional b.ident "value" (withHeader b.wire (b.headerText "value"))
  else bindRequest (withHeader b.wire (b.headerText b.source))

def constantHeaderStatement (name value : String) : String :=
  bindRequest (withHeader name (literal value))

/-- Attaches an argument as the body. -/
def bodyStatement (ident : String) (optional : Bool) : String :=
  if optional then bindOptional ident "body" "request.json(body)"
  else bindRequest ("request.json(&" ++ ident ++ ")")

/-- Sends the request; an answer that is no success ends the method. -/
def sendStatement (path : String) : String :=
  bodyLine "let response = request.send().await?;"
    ++ bodyLine "if !response.status().is_success() \x7b"
    ++ bodyLine ("    return Err(ApiError::from_response(response, " ++ literal path ++ ").await);")
    ++ bodyLine "\x7d"

/-- Reads all of an answer. -/
def readBytes : String := bodyLine "let bytes = response.bytes().await?;"

/-- The value of a type that the answer holds. -/
def decodedBytes (type : String) : String :=
  bodyLine ("Ok(serde_json::from_slice::<" ++ type ++ ">(&bytes)?)")

/-- Gives the answer back and ends the method. -/
def responseStatement (payload : Payload) : String :=
  (match payload with
  | .empty => bodyLine "Ok(())"
  | .json type => readBytes ++ decodedBytes type
  | .optionalJson type =>
    readBytes
      ++ bodyLine "if bytes.is_empty() \x7b"
      ++ bodyLine "    return Ok(None);"
      ++ bodyLine "\x7d"
      ++ decodedBytes ("Option<" ++ type ++ ">"))
  ++ "    \x7d\n"

end ApiForge.Client
