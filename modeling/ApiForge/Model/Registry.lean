import ApiForge.Schema.Basic

/-!
The names of the types of a run, in the order in which they were claimed, and the work that is
still to be done.
-/

namespace ApiForge

/-- The names that are taken, each once. -/
structure Registry where
  names : List String := []
  deriving Repr, DecidableEq

namespace Registry

/-- Whether a name is taken. -/
def contains (r : Registry) (name : String) : Bool := r.names.contains name

/-- Takes a name; a name that is taken already stays where it is. -/
def claim (r : Registry) (name : String) : Registry :=
  if r.contains name then r else ⟨r.names ++ [name]⟩

/-- Gives a name back. -/
def release (r : Registry) (name : String) : Registry := ⟨r.names.erase name⟩

/-- A name that was free is free again once it is given back. -/
theorem release_claim {r : Registry} {name : String} (h : r.contains name = false) :
    (r.claim name).release name = r := by
  have hname : name ∉ r.names := by
    rw [← List.contains_iff_mem]
    exact Bool.eq_false_iff.mp h
  rw [claim, if_neg (by simp [h]), release, List.erase_append_right _ hname,
    List.erase_cons_head, List.append_nil]

end Registry

/-- A schema that waits for a type of its own. -/
structure PendingSchema where
  key : String
  schema : Schema
  deriving Repr

/-- A union that waits for its types. -/
structure UnionGroup where
  /-- The key of the property that holds the union. -/
  owner : String
  variants : List Schema
  deriving Repr

/-- The work that the resolution of a schema gives rise to. -/
structure Discovered where
  pending : List PendingSchema := []
  unions : List UnionGroup := []
  deriving Repr

namespace Discovered

def isEmpty (d : Discovered) : Bool := d.pending.isEmpty && d.unions.isEmpty

/-- The work of both, each kind in order. -/
def append (d e : Discovered) : Discovered := ⟨d.pending ++ e.pending, d.unions ++ e.unions⟩

instance : Append Discovered := ⟨append⟩

/-- The number of schemas in the work, where each union counts as one more. -/
def nodeCount (d : Discovered) : Nat :=
  Schema.countAll (d.pending.map (·.schema)) +
    (Schema.countAll (d.unions.flatMap (·.variants)) + d.unions.length)

end Discovered

end ApiForge
