import ApiForge.Client.Method
import ApiForge.Client.Scaffold
import ApiForge.Emit.Comment

/-!
Methods as code: comments, head, and the statements in the order in which a request comes about.
-/

namespace ApiForge.Client

open Emit

namespace Method

/-- The comment about the operation that a method was made from. -/
def notes (m : Method) : String :=
  lines <|
    ["    // Operation: " ++ m.endpoint.verb.name ++ " " ++ m.endpoint.path]
    ++ (m.endpoint.operation.operationId.map ("    // Operation ID: " ++ ·)).toList
    ++ ["    // Response: " ++ m.status]

def summary (m : Method) : String :=
  let text := m.endpoint.operation.summary.or m.endpoint.operation.description
  docComment text "    "
    ++ (if text.isSome then "    ///\n" else "")
    ++ "    /// \x60" ++ m.endpoint.verb.name ++ " " ++ m.endpoint.path ++ "\x60\n"

/-- The comment about an argument: the first line of what is said about it. -/
def argumentNote (a : Argument) : Option String :=
  a.description.map fun text =>
    let first := (Text.lines text.toList).head?.getD []
    "    /// * \x60" ++ a.ident ++ "\x60 - " ++ String.ofList (Text.trim first)

def argumentNotes (m : Method) : String :=
  match m.arguments.filterMap argumentNote with
  | [] => ""
  | notes => lines (["    ///", "    /// # Arguments", "    ///"] ++ notes)

/-- The statement that puts an argument into the query or a header. -/
def argumentStatement (a : Argument) : String :=
  match a.place with
  | .query => queryStatement a.binding
  | .header => headerStatement a.binding
  | .path => ""
  | .body => ""

/-- The statement that attaches the body. -/
def bodyAttachment (m : Method) : String :=
  match m.arguments.find? (·.place = .body) with
  | some a => bodyStatement a.ident (!a.required)
  | none => ""

def body (m : Method) : String :=
  urlStatement m.urlTemplate m.pathArguments
    ++ requestStatement m.endpoint.verb
    ++ String.join (m.arguments.map argumentStatement)
    ++ String.join (m.constantHeaders.map fun (name, value) => constantHeaderStatement name value)
    ++ m.bodyAttachment
    ++ sendStatement m.endpoint.path
    ++ responseStatement m.payload

def code (m : Method) (emitMetadata : Bool) : String :=
  (if emitMetadata then m.notes else "")
    ++ m.summary
    ++ m.argumentNotes
    ++ (if m.endpoint.operation.deprecated then "    #[deprecated]\n" else "")
    ++ methodHead m.name (m.arguments.map (·.declaration)) m.payload
    ++ m.body

end Method

end ApiForge.Client
