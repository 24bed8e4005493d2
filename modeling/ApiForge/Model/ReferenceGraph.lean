import ApiForge.Entries
import ApiForge.Model.Type

/-!
Which types hold which by value, and whether one type is held by another directly or through
others. The search follows each type once, so it ends on every graph.
-/

namespace ApiForge

/-- The types with the names that each holds by value, in ascending order. -/
structure ReferenceGraph where
  held : Entries (List String) := []
  deriving Repr

namespace ReferenceGraph

/-- Puts a name at its place in an ascending list, unless it is there already. -/
def insertName (name : String) : List String → List String
  | [] => [name]
  | n :: rest =>
    if name = n then n :: rest
    else if name < n then name :: n :: rest
    else n :: insertName name rest

/-- What a type holds by value. -/
def holds? (g : ReferenceGraph) (name : String) : Option (List String) := g.held.get? name

/-- Adds what a type holds to what a type of its name holds already. -/
def addType (g : ReferenceGraph) (t : ModelType) : ReferenceGraph :=
  match t.name? with
  | none => g
  | some name =>
    ⟨g.held.put name (t.inlineReferences.foldl (fun l n => insertName n l)
      ((g.holds? name).getD []))⟩

def ofTypes (types : List ModelType) : ReferenceGraph := types.foldl addType {}

/-- There is a chain of one or more steps from a type to another, each step from a type to one
that it holds. -/
inductive Leads (g : ReferenceGraph) : String → String → Prop where
  | step {source target : String} {names : List String} (holds : g.holds? source = some names)
      (mem : target ∈ names) : Leads g source target
  | trans {source middle target : String} {names : List String}
      (holds : g.holds? source = some names) (mem : middle ∈ names)
      (rest : Leads g middle target) : Leads g source target

/-- The types of the graph that are not among those visited. -/
def unvisited (g : ReferenceGraph) (visited : List String) : List String :=
  g.held.keys.filter fun name => !visited.contains name

theorem unvisited_cons (g : ReferenceGraph) (visited : List String) (name : String) :
    g.unvisited (name :: visited) = (g.unvisited visited).filter (· != name) := by
  simp only [unvisited, List.filter_filter]
  refine List.filter_congr fun x _ => ?_
  by_cases hx : x = name <;> simp [hx]

theorem unvisited_cons_le (g : ReferenceGraph) (visited : List String) (name : String) :
    (g.unvisited (name :: visited)).length ≤ (g.unvisited visited).length := by
  rw [unvisited_cons]
  exact List.length_filter_le _ _

theorem mem_keys_of_holds? {g : ReferenceGraph} {name : String} {names : List String}
    (h : g.holds? name = some names) : name ∈ g.held.keys := by
  obtain ⟨held⟩ := g
  simp only [holds?, Entries.get?, Entries.keys] at h ⊢
  induction held with
  | nil => simp at h
  | cons p rest ih =>
    by_cases hp : name = p.1
    · simp [hp]
    · have hne : (name == p.1) = false := by simpa using hp
      rw [List.lookup_cons, hne] at h
      exact List.mem_cons_of_mem _ (ih h)

theorem unvisited_cons_lt {g : ReferenceGraph} {visited : List String} {name : String}
    {names : List String} (h : g.holds? name = some names) (hv : visited.contains name = false) :
    (g.unvisited (name :: visited)).length < (g.unvisited visited).length := by
  have hmem : name ∈ g.unvisited visited := by
    simp only [unvisited, List.mem_filter]
    exact ⟨mem_keys_of_holds? h, by simpa using hv⟩
  rw [unvisited_cons]
  exact List.length_filter_lt_length_iff_exists.mpr ⟨name, hmem, by simp⟩

/-- Whether a type is held by one that is still to be followed, directly or through others. Types
that were visited before are not followed again. -/
def search (g : ReferenceGraph) (target : String) (visited : List String) :
    (todo : List String) → Bool
  | [] => false
  | name :: todo =>
    match _hv : visited.contains name with
    | true => search g target visited todo
    | false =>
      match _h : g.holds? name with
      | none => search g target (name :: visited) todo
      | some names =>
        if names.contains target then true
        else search g target (name :: visited) (names.reverse ++ todo)
termination_by todo => ((g.unvisited visited).length, todo.length)
decreasing_by
  · exact Prod.Lex.right _ (by simp)
  · rcases Nat.lt_or_eq_of_le (unvisited_cons_le g visited name) with hlt | heq
    · exact Prod.Lex.left _ _ hlt
    · rw [heq]; exact Prod.Lex.right _ (by simp)
  · exact Prod.Lex.left _ _ (unvisited_cons_lt _h _hv)

/-- Whether a type holds another, directly or through others. -/
def reaches (g : ReferenceGraph) (source target : String) : Bool := g.search target [] [source]

/-- Whether the reference of a type to another lies on a chain that leads back. -/
def closesCycle (g : ReferenceGraph) (owner target : String) : Bool :=
  owner == target || g.reaches target owner

end ReferenceGraph

end ApiForge
