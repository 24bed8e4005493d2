import ApiForge.Text.Segment

/-!
Files and folders as a value. A path names a place by the names of the folders on the way to it;
whatever has a place stands in a folder.
-/

namespace ApiForge

/-- The way to a place: the names of the folders that it is in, and its own. -/
abbrev Place := List String

namespace Place

/-- The place that a path leads to. Empty names and single dots lead nowhere. -/
def ofPath (path : String) : Place :=
  ((Text.pieces (· == '/') path.toList).map String.ofList).filter fun n => n != "" && n != "."

/-- A path with one more name. -/
def join (path name : String) : String :=
  if path.isEmpty || path.endsWith "/" then path ++ name else path ++ "/" ++ name

end Place

/-- What may have a place. -/
inductive FileNode where
  | folder
  | file (content : ByteArray)

/-- Why a file could not be read or written. -/
inductive FileFault where
  | notFound
  | notFolder
  | alreadyThere
  | isFolder
  | notText
  deriving DecidableEq, Repr

def FileFault.message : FileFault → String
  | notFound => "No such file or directory (os error 2)"
  | notFolder => "Not a directory (os error 20)"
  | alreadyThere => "File exists (os error 17)"
  | isFolder => "Is a directory (os error 21)"
  | notText => "stream did not contain valid UTF-8"

/-- Files and folders by their places. -/
structure FileTree where
  nodes : List (Place × FileNode) := []

namespace FileTree

/-- What has a place. The place without a name is a folder. -/
def find? (t : FileTree) (p : Place) : Option FileNode :=
  match p with
  | [] => some .folder
  | _ => t.nodes.lookup p

def put (t : FileTree) (p : Place) (n : FileNode) : FileTree :=
  ⟨(p, n) :: t.nodes.filter (·.1 != p)⟩

/-- Whether some file stands where the way to a place needs a folder. -/
def isBlocked (t : FileTree) (p : Place) : Bool :=
  (List.range p.length).any fun n =>
    match t.find? (p.take n) with
    | some (.file _) => true
    | _ => false

def read (t : FileTree) (p : Place) : Except FileFault ByteArray :=
  match t.find? p with
  | some (.file content) => .ok content
  | some .folder => .error .isFolder
  | none => .error (if t.isBlocked p then .notFolder else .notFound)

def readText (t : FileTree) (p : Place) : Except FileFault String := do
  let content ← t.read p
  match String.fromUTF8? content with
  | some text => return text
  | none => throw .notText

/-- The tree with all the folders on the way to a place below another one, which is there. -/
def makeFoldersBelow (t : FileTree) (top : Place) : Place → Except FileFault FileTree
  | [] => .ok t
  | name :: rest =>
    let p := top ++ [name]
    match t.find? p with
    | some .folder => makeFoldersBelow t p rest
    | some (.file _) => .error (if rest.isEmpty then .alreadyThere else .notFolder)
    | none => makeFoldersBelow (t.put p .folder) p rest

/-- The tree with a folder and all the folders on the way to it. -/
def makeFolders (t : FileTree) (p : Place) : Except FileFault FileTree := t.makeFoldersBelow [] p

def write (t : FileTree) (p : Place) (content : ByteArray) : Except FileFault FileTree :=
  match t.find? p with
  | some .folder => .error .isFolder
  | _ =>
    match t.find? p.dropLast with
    | some .folder => .ok (t.put p (.file content))
    | some (.file _) => .error .notFolder
    | none => .error (if t.isBlocked p then .notFolder else .notFound)

end FileTree

end ApiForge
