import ApiForge.Json.Value

/-!
A document as it was read, before its shape is known. A text that stops making sense somewhere is
kept up to that point, with a mark where it breaks: whoever takes the draft apart from left to
right meets either a part of the wrong shape or the break, whichever comes first, and that is the
fault of the document.
-/

namespace ApiForge

/-- What is wrong with a document. -/
inductive Fault where
  /-- The text is not well-formed. -/
  | malformed
  /-- A well-formed part does not have the shape that is called for. -/
  | misshapen
  /-- The item of a path does not have its shape. -/
  | pathItem (path : String)
  /-- A value of one kind stands where something else is expected. -/
  | unexpected (found : String) (expected : String)
  deriving DecidableEq, Repr

/-- A scalar with the ways to read it. What a plain word may stand for is up to the format. -/
structure Scalar where
  /-- The reading as a value of any kind. -/
  value : Except Fault Json
  /-- The reading where a text is called for. -/
  text : Except Fault String
  /-- The reading where a truth value is called for. -/
  flag : Except Fault Bool
  /-- Whether an optional member with this scalar has no value. -/
  isAbsent : Bool
  /-- Whether the scalar passes for a list or a table without entries. -/
  isEmpty : Bool

/-- A document as it was read. -/
inductive Draft where
  | scalar (s : Scalar)
  /-- A list. Where the format lets a list stand for a record, `surplus` is the fault of items
  beyond its last member. -/
  | list (surplus : Option Fault) (items : List Draft)
  | dict (entries : List (Draft × Draft))
  /-- A part that may be passed over but not opened. -/
  | sealed (fault : Fault) (inner : Draft)
  /-- A list or table marked as being of a type of its own, which is no value of a general kind. -/
  | marked (inner : Draft)
  /-- The point where the text stops making sense. -/
  | broken (fault : Fault)

namespace Draft

mutual

/-- Passes over a part that nobody asks for; only a break stops it. -/
def skip : Draft → Except Fault Unit
  | scalar _ => .ok ()
  | list _ items => skipItems items
  | dict entries => skipEntries entries
  | sealed _ inner => skip inner
  | marked inner => skip inner
  | broken f => .error f

def skipItems : List Draft → Except Fault Unit
  | [] => .ok ()
  | d :: rest => do skip d; skipItems rest

def skipEntries : List (Draft × Draft) → Except Fault Unit
  | [] => .ok ()
  | (k, v) :: rest => do skip k; skip v; skipEntries rest

end

def text : Draft → Except Fault String
  | scalar s => s.text
  | broken f => .error f
  | _ => .error .misshapen

def flag : Draft → Except Fault Bool
  | scalar s => s.flag
  | broken f => .error f
  | _ => .error .misshapen

/-- The greatest whole number of 64 bits with a sign. -/
def maxInteger : Int := (1 <<< 63 - 1 : Nat)

mutual

/-- The part as a value of any kind. A repeated key of a table keeps its first place and its last
value. -/
def value : Draft → Except Fault Json
  | scalar s => s.value
  | list _ items => return .arr (← valueItems items)
  | dict entries => return .obj (← valueEntries [] entries)
  | sealed f _ => .error f
  | marked _ => .error .misshapen
  | broken f => .error f

def valueItems : List Draft → Except Fault (List Json)
  | [] => .ok []
  | d :: rest => do
    let v ← value d
    return v :: (← valueItems rest)

/-- The entries of a table as members, after those read before. -/
def valueEntries (members : Entries Json) :
    List (Draft × Draft) → Except Fault (Entries Json)
  | [] => .ok members
  | (k, v) :: rest => do
    let key ← text k
    let v ← value v
    valueEntries (Entries.put key v members) rest

end

/-- The whole number of a scalar, of 64 bits with a sign. -/
def integer (d : Draft) : Except Fault Int := do
  match ← d.value with
  | .int n => if n ≤ maxInteger then return n else throw .misshapen
  | _ => throw .misshapen

/-- Reads a part that may have no value. -/
def optional {α : Type} (read : Draft → Except Fault α) (d : Draft) : Except Fault (Option α) :=
  match d with
  | scalar s => if s.isAbsent then .ok none else some <$> read d
  | _ => some <$> read d

def items : Draft → Except Fault (List Draft)
  | list _ items => .ok items
  | scalar s => if s.isEmpty then .ok [] else do let _ ← s.value; .error .misshapen
  | sealed f (list _ _) => .error f
  | marked inner => items inner
  | broken f => .error f
  | _ => .error .misshapen

def entries : Draft → Except Fault (List (Draft × Draft))
  | dict entries => .ok entries
  | scalar s => if s.isEmpty then .ok [] else do let _ ← s.value; .error .misshapen
  | sealed f (dict _) => .error f
  | marked inner => entries inner
  | broken f => .error f
  | _ => .error .misshapen

/-- Reads each item of a list. -/
def listOf {α : Type} (read : Draft → Except Fault α) (d : Draft) : Except Fault (List α) := do
  (← d.items).mapM read

/-- Reads the entries of a table one after the other. -/
def tableOf {α : Type} (read : Draft → Except Fault α) (d : Draft) : Except Fault (Entries α) := do
  (← d.entries).foldlM (fun t (k, v) => do
    let key ← k.text
    return t.put key (← read v)) []

mutual

/-- How deep the parts of a draft nest. -/
def height : Draft → Nat
  | scalar _ => 0
  | list _ items => heightItems items + 1
  | dict entries => heightEntries entries + 1
  | sealed _ inner => height inner
  | marked inner => height inner
  | broken _ => 0

def heightItems : List Draft → Nat
  | [] => 0
  | d :: rest => max (height d) (heightItems rest)

def heightEntries : List (Draft × Draft) → Nat
  | [] => 0
  | (_, v) :: rest => max (height v) (heightEntries rest)

end

end Draft

/-- A text that was read: its draft, and the fault of what follows it. -/
structure Reading where
  root : Draft
  rest : Except Fault Unit

/-- Takes the draft apart; what follows it counts once the draft itself is in order. -/
def Reading.get {α : Type} (r : Reading) (read : Draft → Except Fault α) : Except Fault α := do
  let a ← read r.root
  r.rest
  return a

end ApiForge
