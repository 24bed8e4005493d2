import ApiForge.Output.Layout

/-!
The command: read a document, make its models and clients, and write them. Nothing is written
unless all of it could be made.
-/

namespace ApiForge

/-- What the command is asked to do. -/
structure Command where
  /-- The path of the document. -/
  document : String
  /-- The path of the folder to write to. -/
  outputFolder : String := "code"
  emitMetadata : Bool := false
  /-- Whether units are taken that are not well-formed code. -/
  noVerify : Bool := false
  deriving DecidableEq, Repr

/-- Why the command failed. -/
inductive CommandFailure where
  /-- The document could not be worked with. -/
  | core (p : Problem)
  | io (f : FileFault)
  | general (reason : String)
  deriving DecidableEq, Repr

def CommandFailure.message : CommandFailure → String
  | core p => p.message
  | io f => "IO Error: " ++ f.message
  | general reason => "Operation failed: " ++ reason

namespace Command

/-- The choices that the command makes about a run. -/
def config (c : Command) : Config :=
  { emitMetadata := c.emitMetadata, verifySyntax := !c.noVerify }

/-- A path in quotes, where single quotes are escaped too. -/
def quotedPath (path : String) : String :=
  String.ofList <| '"' :: (path.toList.flatMap fun c =>
    if c = '\'' then ['\\', '\''] else Text.literalChar c) ++ ['"']

/-- The reason of a failure for want of the document. -/
def missingDocument (c : Command) : String :=
  "OpenAPI file not found: " ++ quotedPath c.document

/-- The steps that write what is made from a text. -/
def plan (c : Command) (text : String) : Except Problem (List FileAction) := do
  return (← Document.generateFromText c.config text).actions c.outputFolder

/-- Does what the command asks for, and gives the files that were written in their order. -/
def execute (c : Command) (t : FileTree) : Except CommandFailure (List String) × FileTree :=
  let source := Place.ofPath c.document
  if c.document.isEmpty || (t.find? source).isNone then
    (.error (.general c.missingDocument), t)
  else
    match t.readText source with
    | .error f => (.error (.io f), t)
    | .ok text =>
      match c.plan text with
      | .error p => (.error (.core p), t)
      | .ok actions =>
        match FileAction.performAll t actions with
        | (.error f, t) => (.error (.io f), t)
        | (.ok (), t) => (.ok (actions.filterMap (·.file?)), t)

end Command

end ApiForge
