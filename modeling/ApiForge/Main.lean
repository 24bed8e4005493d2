import ApiForge.Output.Command

/-!
The program on the command line.
-/

namespace ApiForge

/-- The way to call the program. -/
def usage : String :=
  "usage: apiforge DOCUMENT [--output-dir FOLDER] [--emit-metadata] [--no-verify]"

def Command.withOptions (c : Command) : List String → Option Command
  | [] => some c
  | "--output-dir" :: folder :: rest => withOptions { c with outputFolder := folder } rest
  | "--emit-metadata" :: rest => withOptions { c with emitMetadata := true } rest
  | "--no-verify" :: rest => withOptions { c with noVerify := true } rest
  | document :: rest =>
    if c.document.isEmpty && !document.startsWith "-" then withOptions { c with document } rest
    else none

/-- Does a step on the files of the machine. -/
def FileAction.run : FileAction → IO Unit
  | makeFolder path => IO.FS.createDirAll path
  | write path content => IO.FS.writeFile path content

/-- Does what a command asks for on the files of the machine. -/
def Command.run (c : Command) : IO UInt32 := do
  let text ← try IO.FS.readFile c.document
    catch
    | .noFileOrDirectory .. =>
      IO.eprintln (CommandFailure.general c.missingDocument).message
      return 1
    | e =>
      IO.eprintln ("IO Error: " ++ toString e)
      return 1
  match c.plan text with
  | .error p =>
    IO.eprintln p.message
    return 1
  | .ok actions =>
    actions.forM FileAction.run
    return 0

end ApiForge

open ApiForge in
def main (args : List String) : IO UInt32 := do
  match Command.withOptions { document := "" } args with
  | some c =>
    if c.document.isEmpty then
      IO.eprintln usage
      return 2
    c.run
  | none =>
    IO.eprintln usage
    return 2
