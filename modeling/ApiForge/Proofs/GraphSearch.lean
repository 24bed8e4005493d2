import ApiForge.Proofs.Reachability
import Mathlib.Algebra.GroupWithZero.Nat
import Mathlib.Tactic.Common

/-!
The search in a graph, turn by turn. The names that wait are a stack, in which a name may stand more
than once. A turn takes the name on top, passes over one that was visited, and else puts what the
name holds on the stack, one after the other, unless it comes to the target. Each name is followed
once, so the names on the stack and those that are still to be put there become fewer with every
turn. Main statement: the search ends on every graph, after no more turns than there are edges and
two, and tells whether a chain of one or more edges leads from one name to the other
(`reaches_settles`).
-/

namespace ApiForge.ReferenceGraph

/-- Puts names on a stack one after the other, unless the target is among them. -/
def stack? (target : String) : List String → List String → Option (List String)
  | [], todo => some todo
  | name :: names, todo => if name = target then none else stack? target names (name :: todo)

/-- Where a search stands: what it visited, and the stack of names that wait. -/
structure SearchState where
  visited : List String
  todo : List String

/-- One turn of the search for a name: it ends the search with an answer or goes on. -/
def turn (g : ReferenceGraph) (target : String) (s : SearchState) : Bool ⊕ SearchState :=
  match s.todo with
  | [] => .inl false
  | name :: todo =>
    if s.visited.contains name then .inr ⟨s.visited, todo⟩
    else
      match g.holds? name with
      | none => .inr ⟨name :: s.visited, todo⟩
      | some names =>
        match stack? target names todo with
        | none => .inl true
        | some todo => .inr ⟨name :: s.visited, todo⟩

/-- A search takes a number of turns and ends with an answer. -/
inductive EndsAfter (g : ReferenceGraph) (target : String) : SearchState → Nat → Bool → Prop
  | ends {s : SearchState} {answer : Bool} (turn : g.turn target s = .inl answer) :
      EndsAfter g target s 1 answer
  | goesOn {s t : SearchState} {turns : Nat} {answer : Bool} (turn : g.turn target s = .inr t)
      (rest : EndsAfter g target t turns answer) : EndsAfter g target s (turns + 1) answer

theorem stack?_eq (target : String) (names todo : List String) :
    stack? target names todo =
      if names.contains target then none else some (names.reverse ++ todo) := by
  induction names generalizing todo with
  | nil => simp [stack?]
  | cons name names ih =>
    rw [stack?, ih, List.contains_cons, List.reverse_cons, List.append_assoc, List.singleton_append]
    by_cases hname : name = target
    · simp [hname]
    · simp [hname, Ne.symm hname]

/-! What is left to do. -/

/-- How many names are held by those that were not visited. -/
def openEdges (g : ReferenceGraph) (visited : List String) : Nat :=
  (g.held.map fun p => if visited.contains p.1 then 0 else p.2.length).sum

def edgeCount (g : ReferenceGraph) : Nat := (g.held.map fun p => p.2.length).sum

theorem openEdges_nil (g : ReferenceGraph) : g.openEdges [] = g.edgeCount := rfl

theorem openEdges_cons_le (g : ReferenceGraph) (visited : List String) (name : String) :
    g.openEdges (name :: visited) ≤ g.openEdges visited := by
  obtain ⟨held⟩ := g
  induction held with
  | nil => exact Nat.le_refl _
  | cons p held ih =>
    simp only [openEdges, List.map_cons, List.sum_cons, List.contains_cons] at ih ⊢
    refine Nat.add_le_add ?_ ih
    cases visited.contains p.1 with
    | true => simp
    | false =>
      rw [Bool.or_false]
      split
      · exact Nat.zero_le _
      · exact Nat.le_refl _

/-- A name that is visited takes the names it holds with it. -/
theorem openEdges_cons_add_le {g : ReferenceGraph} {visited names : List String} {name : String}
    (h : g.holds? name = some names) (hv : visited.contains name = false) :
    g.openEdges (name :: visited) + names.length ≤ g.openEdges visited := by
  obtain ⟨held⟩ := g
  simp only [holds?, Entries.get?] at h
  induction held with
  | nil => cases h
  | cons p held ih =>
    rw [List.lookup_cons] at h
    cases hp : name == p.1 with
    | true =>
      -- The first entry of the name is the one that counts.
      rw [hp] at h
      obtain rfl := Option.some.inj h
      obtain rfl := beq_iff_eq.mp hp
      have hle := openEdges_cons_le ⟨held⟩ visited p.1
      simp only [openEdges, List.map_cons, List.sum_cons, List.contains_cons] at hle ⊢
      rw [beq_self_eq_true, hv, Bool.true_or, if_pos rfl, if_neg Bool.false_ne_true]
      omega
    | false =>
      rw [hp] at h
      have hle := ih h
      have hother : (p.1 == name) = false := by rw [BEq.comm, hp]
      simp only [openEdges, List.map_cons, List.sum_cons, List.contains_cons, hother,
        Bool.false_or] at hle ⊢
      omega

/-- The names on the stack and those that are still to be put there. -/
def pending (g : ReferenceGraph) (s : SearchState) : Nat := s.todo.length + g.openEdges s.visited

/-! One turn, and then all of them. -/

theorem turn_cons (g : ReferenceGraph) (target : String) (visited : List String) (name : String)
    (todo : List String) :
    g.turn target ⟨visited, name :: todo⟩ =
      if visited.contains name then .inr ⟨visited, todo⟩
      else
        match g.holds? name with
        | none => .inr ⟨name :: visited, todo⟩
        | some names =>
          if names.contains target then .inl true
          else .inr ⟨name :: visited, names.reverse ++ todo⟩ := by
  simp only [turn]
  cases visited.contains name with
  | true => rfl
  | false =>
    cases g.holds? name with
    | none => rfl
    | some names =>
      simp only [stack?_eq]
      cases names.contains target with
      | true => rfl
      | false => rfl

/-- A turn gives the answer of the search or keeps it. -/
theorem search_eq_turn (g : ReferenceGraph) (target : String) (s : SearchState) :
    g.search target s.visited s.todo =
      match g.turn target s with
      | .inl answer => answer
      | .inr t => g.search target t.visited t.todo := by
  obtain ⟨visited, todo⟩ := s
  cases todo with
  | nil => simp [search, turn]
  | cons name todo =>
    rw [turn_cons]
    dsimp only
    rw [search_cons]
    cases visited.contains name with
    | true => rfl
    | false =>
      cases g.holds? name with
      | none => rfl
      | some names =>
        dsimp only
        cases names.contains target with
        | true => rfl
        | false => rfl

/-- A turn that goes on leaves less to do. -/
theorem pending_lt_of_turn {g : ReferenceGraph} {target : String} {s t : SearchState}
    (h : g.turn target s = .inr t) : g.pending t < g.pending s := by
  obtain ⟨visited, todo⟩ := s
  cases todo with
  | nil => cases h
  | cons name todo =>
    rw [turn_cons] at h
    split at h
    · -- The name was visited: only the stack becomes shorter.
      obtain rfl := Sum.inr.inj h
      simp only [pending, List.length_cons]
      omega
    · next hv =>
      split at h
      · obtain rfl := Sum.inr.inj h
        have hle := openEdges_cons_le g visited name
        simp only [pending, List.length_cons]
        omega
      · next names hholds =>
        split at h
        · cases h
        · obtain rfl := Sum.inr.inj h
          have hle := openEdges_cons_add_le hholds (Bool.not_eq_true _ ▸ hv)
          simp only [pending, List.length_cons, List.length_append, List.length_reverse]
          omega

/-- A search ends with its answer, after no more turns than there is to do and one. -/
theorem exists_endsAfter (g : ReferenceGraph) (target : String) (s : SearchState) :
    ∃ turns ≤ g.pending s + 1, g.EndsAfter target s turns (g.search target s.visited s.todo) := by
  induction hn : g.pending s using Nat.strongRecOn generalizing s with
  | ind n ih =>
    have hsearch := search_eq_turn g target s
    cases hturn : g.turn target s with
    | inl answer =>
      rw [hturn] at hsearch
      exact ⟨1, by omega, hsearch ▸ .ends hturn⟩
    | inr t =>
      rw [hturn] at hsearch
      have hlt := pending_lt_of_turn hturn
      obtain ⟨turns, hle, hends⟩ := ih _ (hn ▸ hlt) t rfl
      exact ⟨turns + 1, by omega, hsearch ▸ .goesOn hturn hends⟩

/-- However many turns a search takes, it ends with its answer. -/
theorem EndsAfter.search_eq {g : ReferenceGraph} {target : String} {s : SearchState} {turns : Nat}
    {answer : Bool} (h : g.EndsAfter target s turns answer) :
    g.search target s.visited s.todo = answer := by
  induction h with
  | ends hturn => rw [search_eq_turn, hturn]
  | goesOn hturn _ ih =>
    rw [search_eq_turn, hturn]
    exact ih

/-- A chain of steps is a path along the edges. -/
theorem leads_iff_transGen {g : ReferenceGraph} {source target : String} :
    g.Leads source target ↔ Relation.TransGen g.Edge source target := by
  constructor
  · intro h
    induction h with
    | step hholds hmem => exact .single ⟨_, hholds, hmem⟩
    | trans hholds hmem _ ih => exact .head ⟨_, hholds, hmem⟩ ih
  · intro h
    induction h using Relation.TransGen.head_induction_on with
    | single hedge =>
      obtain ⟨names, hholds, hmem⟩ := hedge
      exact .step hholds hmem
    | head hedge _ ih =>
      obtain ⟨names, hholds, hmem⟩ := hedge
      exact .trans hholds hmem ih

/-- The search from one name to another ends on every graph, whether the names are in it or not,
after no more turns than there are edges and two. The answer it ends with is that of `reaches` and
no other, and tells whether a chain of one or more edges leads from the first name to the second. -/
theorem reaches_settles (g : ReferenceGraph) (source target : String) :
    (∃ turns ≤ g.edgeCount + 2, ∀ answer,
      g.EndsAfter target ⟨[], [source]⟩ turns answer ↔ answer = g.reaches source target) ∧
    (g.reaches source target = true ↔ g.Leads source target) := by
  constructor
  · obtain ⟨turns, hle, hends⟩ := exists_endsAfter g target ⟨[], [source]⟩
    have hbound : turns ≤ g.edgeCount + 2 := by
      simp only [pending, List.length_singleton, openEdges_nil] at hle
      omega
    refine ⟨turns, hbound, fun answer => ⟨fun h => h.search_eq.symm, ?_⟩⟩
    rintro rfl
    exact hends
  · rw [leads_iff_transGen]
    exact reaches_iff_transGen

end ApiForge.ReferenceGraph
