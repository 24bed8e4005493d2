import ApiForge.Emit.Index
import ApiForge.Generation
import ApiForge.Name.FileStem
import ApiForge.Output.FileTree

/-!
Where the units go: models and clients into a folder each, one file a unit, with an index of each
folder and one of both.
-/

namespace ApiForge

/-- A step of writing. -/
inductive FileAction where
  /-- Makes a folder and all the folders on the way to it. -/
  | makeFolder (path : String)
  | write (path : String) (content : String)
  deriving DecidableEq, Repr

namespace FileAction

/-- The file that a step writes. -/
def file? : FileAction → Option String
  | makeFolder _ => none
  | write path _ => some path

def perform (t : FileTree) : FileAction → Except FileFault FileTree
  | makeFolder path => t.makeFolders (Place.ofPath path)
  | write path content => t.write (Place.ofPath path) content.toUTF8

/-- Does steps one after the other up to the first that fails. -/
def performAll (t : FileTree) : List FileAction → Except FileFault Unit × FileTree
  | [] => (.ok (), t)
  | a :: rest =>
    match a.perform t with
    | .ok t => performAll t rest
    | .error f => (.error f, t)

end FileAction

namespace Generated

/-- The name of the file of an index. -/
def indexFile : String := "mod.rs"

/-- The index of both folders. -/
def rootIndex : String := "pub mod api;\npub mod models;\n"

/-- Writes the units of a folder and its index. -/
def folderActions (folder : String) (units : Entries String) : List FileAction :=
  let stems := Name.moduleStems units.keys
  let unitFiles := units.filterMap fun (name, code) =>
    (stems.lookup name).map fun stem => FileAction.write (Place.join folder (stem ++ ".rs")) code
  .makeFolder folder :: unitFiles ++
    [.write (Place.join folder indexFile) (Emit.moduleIndex (stems.map (·.2)))]

/-- Writes all units and indexes into a folder. -/
def actions (g : Generated) (folder : String) : List FileAction :=
  folderActions (Place.join folder "models") g.models
    ++ folderActions (Place.join folder "api") g.clients
    ++ [.write (Place.join folder indexFile) rootIndex]

end Generated

end ApiForge
