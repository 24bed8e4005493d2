/-!
Ordered tables: a list of keys with values, where no key stands twice. A key that is put again
keeps its place and changes its value.
-/

namespace ApiForge

/-- A table in the order in which its keys came. -/
abbrev Entries (α : Type) := List (String × α)

namespace Entries

/-- The table with a key set to a value. -/
def put {α : Type} (key : String) (value : α) : Entries α → Entries α
  | [] => [(key, value)]
  | (k, v) :: rest => if k = key then (k, value) :: rest else (k, v) :: put key value rest

/-- The value of a key. -/
def get? {α : Type} (t : Entries α) (key : String) : Option α := t.lookup key

/-- The table with the value of a key exchanged, if the key is there. -/
def replace {α : Type} (key : String) (value : α) (t : Entries α) : Entries α :=
  t.map fun (k, v) => if k = key then (k, value) else (k, v)

def keys {α : Type} (t : Entries α) : List String := t.map Prod.fst

/-- The table that a list of keys and values builds, one after the other. -/
def ofPairs {α : Type} (pairs : List (String × α)) : Entries α :=
  pairs.foldl (fun t p => put p.1 p.2 t) []

/-- The table with another table's keys set. -/
def putAll {α : Type} (t : Entries α) (more : List (String × α)) : Entries α :=
  more.foldl (fun t p => put p.1 p.2 t) t

end Entries

end ApiForge
