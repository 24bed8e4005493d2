/-!
Paths as format templates. A placeholder in braces becomes a pair of braces if it has an argument;
all other braces are doubled, which is how a template writes a brace.
-/

namespace ApiForge.Client

inductive PathPiece where
  | char (c : Char)
  /-- A placeholder with its name. -/
  | slot (name : List Char)
  deriving DecidableEq, Repr

/-- The name of the placeholder whose opening brace was just read, and what follows its closing
brace. A name is not empty. -/
def slotName? (s : List Char) : Option (List Char × List Char) :=
  match s.takeWhile (· != '\x7d'), s.dropWhile (· != '\x7d') with
  | c :: name, _ :: rest => some (c :: name, rest)
  | _, _ => none

theorem length_of_slotName? {s name rest : List Char} (h : slotName? s = some (name, rest)) :
    rest.length < s.length := by
  have hs := congrArg List.length (List.takeWhile_append_dropWhile (p := (· != '\x7d')) (l := s))
  unfold slotName? at h
  split at h
  · rename_i h₁ h₂
    simp only [h₁, h₂, List.length_append, List.length_cons] at hs
    simp only [Option.some.injEq, Prod.mk.injEq] at h
    obtain ⟨_, rfl⟩ := h
    omega
  · simp at h

/-- The pieces of a path. A placeholder begins at the first brace that one can begin at. -/
def pathPieces : List Char → List PathPiece
  | [] => []
  | c :: rest =>
    if c = '\x7b' then
      match _h : slotName? rest with
      | some (name, after) => .slot name :: pathPieces after
      | none => .char c :: pathPieces rest
    else .char c :: pathPieces rest
termination_by s => s.length
decreasing_by
  · have := length_of_slotName? _h
    simp only [List.length_cons]
    omega
  · simp
  · simp

/-- A character as a template writes it. -/
def escapeBrace (c : Char) : List Char := if c = '\x7b' || c = '\x7d' then [c, c] else [c]

/-- A piece as a template writes it, where `argument` tells the arguments of placeholders. -/
def PathPiece.template (argument : String → Option String) : PathPiece → List Char
  | char c => escapeBrace c
  | slot name =>
    if (argument (String.ofList name)).isSome then ['\x7b', '\x7d']
    else ('\x7b' :: name ++ ['\x7d']).flatMap escapeBrace

def PathPiece.argument? (argument : String → Option String) : PathPiece → Option String
  | char _ => none
  | slot name => argument (String.ofList name)

/-- The template of a path and the arguments that fill it, in order. -/
def urlTemplate (path : String) (argument : String → Option String) : String × List String :=
  let pieces := pathPieces path.toList
  (String.ofList (pieces.flatMap (·.template argument)), pieces.filterMap (·.argument? argument))

end ApiForge.Client
