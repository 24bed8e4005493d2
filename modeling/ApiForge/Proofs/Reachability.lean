import ApiForge.Model.ReferenceGraph
import ApiForge.Proofs.Entries
import Mathlib.Logic.Relation

/-!
The search in the graph of a list of types. A chain of by-value references is stated over the types
themselves: a type holds another when a field outside of lists names it, or when it is a marker and
lists it. Main statement: the search finds a type exactly when a chain leads there
(`reaches_ofTypes_iff`).
-/

namespace ApiForge

/-- A type of one name holds a type of another by value: through one of some fields, outside of
lists, or as a marker. -/
inductive HoldsThrough (p : ModelField → Prop) (types : List ModelType) : String → String → Prop
  | field {t : ModelType} {owner target : String} {f : ModelField} (mem : t ∈ types)
      (name : t.name? = some owner) (field : f ∈ t.fields) (counts : p f)
      (type : f.type = .reference target) : HoldsThrough p types owner target
  | variant {m : UnionMarker} {target : String} (mem : .marker m ∈ types)
      (listed : target ∈ m.variants) : HoldsThrough p types m.name target

/-- A type of one name holds a type of another by value, whether boxed or not. -/
abbrev Holds (types : List ModelType) : String → String → Prop :=
  HoldsThrough (fun _ => True) types

theorem Field.inlineTarget_eq_some_iff {f : ModelField} {target : String} :
    f.inlineTarget = some target ↔ f.type = .reference target := by
  rw [inlineTarget]
  cases f.type <;> simp

theorem holds_iff {types : List ModelType} {owner target : String} :
    Holds types owner target ↔
      ∃ t ∈ types, t.name? = some owner ∧ target ∈ t.inlineReferences := by
  constructor
  · rintro (⟨mem, name, field, _, type⟩ | ⟨mem, listed⟩)
    · refine ⟨_, mem, name, ?_⟩
      have htarget := Field.inlineTarget_eq_some_iff.mpr type
      unfold ModelType.inlineReferences
      split
      · cases field
      · exact List.mem_filterMap.mpr ⟨_, field, htarget⟩
    · exact ⟨_, mem, rfl, listed⟩
  · rintro ⟨t, mem, name, listed⟩
    unfold ModelType.inlineReferences at listed
    split at listed
    · cases name
      exact .variant mem listed
    · obtain ⟨f, field, htarget⟩ := List.mem_filterMap.mp listed
      exact .field mem name field trivial (Field.inlineTarget_eq_some_iff.mp htarget)

namespace ReferenceGraph

/-- A name of the graph with one of those that it holds. -/
def Edge (g : ReferenceGraph) (owner target : String) : Prop :=
  ∃ names, g.holds? owner = some names ∧ target ∈ names

theorem mem_insertName {name other : String} {l : List String} :
    other ∈ insertName name l ↔ other = name ∨ other ∈ l := by
  induction l with
  | nil => simp [insertName]
  | cons n rest ih =>
    rw [insertName]
    split
    · next h =>
      subst h
      simp
    · split
      · rw [List.mem_cons]
      · rw [List.mem_cons, ih, List.mem_cons]
        exact or_left_comm

theorem mem_foldl_insertName {names l : List String} {other : String} :
    other ∈ names.foldl (fun l n => insertName n l) l ↔ other ∈ names ∨ other ∈ l := by
  induction names generalizing l with
  | nil => simp
  | cons n rest ih =>
    rw [List.foldl_cons, ih, mem_insertName, List.mem_cons, or_assoc]
    exact or_left_comm

theorem edge_addType {g : ReferenceGraph} {t : ModelType} {owner target : String} :
    (g.addType t).Edge owner target ↔
      g.Edge owner target ∨ (t.name? = some owner ∧ target ∈ t.inlineReferences) := by
  rw [addType]
  cases hname : t.name? with
  | none => simp
  | some name =>
    simp only [Edge, holds?, Entries.get?_put, Option.some.injEq]
    by_cases howner : owner = name
    · subst howner
      simp only [if_true, Option.some.injEq, exists_eq_left', mem_foldl_insertName, true_and]
      cases hheld : g.held.get? owner with
      | none => simp
      | some names => simp [or_comm]
    · simp [howner, Ne.symm howner]

/-- The graph of a list of types has an edge for every type that holds another. -/
theorem edge_ofTypes {types : List ModelType} {owner target : String} :
    (ofTypes types).Edge owner target ↔ Holds types owner target := by
  have hfold : ∀ (ts : List ModelType) (g : ReferenceGraph),
      (ts.foldl addType g).Edge owner target ↔ g.Edge owner target ∨
        ∃ t ∈ ts, t.name? = some owner ∧ target ∈ t.inlineReferences := by
    intro ts
    induction ts with
    | nil => simp
    | cons t rest ih =>
      intro g
      rw [List.foldl_cons, ih, edge_addType, or_assoc]
      simp only [List.mem_cons, exists_eq_or_imp]
  rw [ofTypes, hfold, holds_iff]
  simp [Edge, holds?]

/-! The search. What was visited has been followed: the names it holds were visited too or wait. -/

/-- The names held by those visited were visited or wait, and the target is not among them. -/
def Followed (g : ReferenceGraph) (target : String) (visited todo : List String) : Prop :=
  ∀ owner ∈ visited, ∀ name, g.Edge owner name → name ≠ target ∧ (name ∈ visited ∨ name ∈ todo)

/-- A name that a search has come across: it was visited or waits. -/
def Seen (visited todo : List String) (name : String) : Prop := name ∈ visited ∨ name ∈ todo

/-- A name that was visited before is taken from those that wait. -/
theorem Seen.skip {visited todo : List String} {name n : String} (hname : name ∈ visited)
    (h : Seen visited (name :: todo) n) : Seen visited todo n := by
  rcases h with hn | hn
  · exact .inl hn
  · rcases List.mem_cons.mp hn with rfl | hn
    · exact .inl hname
    · exact .inr hn

/-- A name is visited, and others wait from then on. -/
theorem Seen.visit {visited todo : List String} {name n : String}
    (h : Seen visited (name :: todo) n) (names : List String) :
    Seen (name :: visited) (names ++ todo) n := by
  rcases h with hn | hn
  · exact .inl (List.mem_cons_of_mem _ hn)
  · rcases List.mem_cons.mp hn with rfl | hn
    · exact .inl List.mem_cons_self
    · exact .inr (List.mem_append_right _ hn)

theorem Followed.skip {g : ReferenceGraph} {target name : String} {visited todo : List String}
    (h : g.Followed target visited (name :: todo)) (hname : name ∈ visited) :
    g.Followed target visited todo := by
  intro owner howner n hedge
  obtain ⟨hne, hseen⟩ := h owner howner n hedge
  exact ⟨hne, Seen.skip hname hseen⟩

/-- A name is visited once what it holds waits. -/
theorem Followed.visit {g : ReferenceGraph} {target name : String}
    {visited todo names : List String} (h : g.Followed target visited (name :: todo))
    (hname : ∀ n, g.Edge name n → n ≠ target ∧ n ∈ names) :
    g.Followed target (name :: visited) (names ++ todo) := by
  intro owner howner n hedge
  rcases List.mem_cons.mp howner with rfl | howner
  · obtain ⟨hne, hmem⟩ := hname n hedge
    exact ⟨hne, .inr (List.mem_append_left _ hmem)⟩
  · obtain ⟨hne, hseen⟩ := h owner howner n hedge
    exact ⟨hne, Seen.visit hseen names⟩

theorem search_cons (g : ReferenceGraph) (target : String) (visited : List String) (name : String)
    (todo : List String) :
    g.search target visited (name :: todo) =
      if visited.contains name then g.search target visited todo
      else
        match g.holds? name with
        | none => g.search target (name :: visited) todo
        | some names =>
          if names.contains target then true
          else g.search target (name :: visited) (names.reverse ++ todo) := by
  rw [search]
  split
  · next hv => rw [if_pos hv]
  · next hv =>
    rw [hv, if_neg Bool.false_ne_true]
    split
    · next h => rw [h]
    · next h => rw [h]

theorem transGen_of_search {g : ReferenceGraph} {target : String} {visited todo : List String}
    (h : g.search target visited todo = true) :
    ∃ name ∈ todo, Relation.TransGen g.Edge name target := by
  induction visited, todo using search.induct g target with
  | case1 visited => simp [search] at h
  | case2 visited name todo hv ih =>
    rw [search_cons, if_pos hv] at h
    obtain ⟨source, hmem, hchain⟩ := ih h
    exact ⟨source, List.mem_cons_of_mem _ hmem, hchain⟩
  | case3 visited name todo hv hnone ih =>
    rw [search_cons, hv, if_neg Bool.false_ne_true, hnone] at h
    obtain ⟨source, hmem, hchain⟩ := ih h
    exact ⟨source, List.mem_cons_of_mem _ hmem, hchain⟩
  | case4 visited name todo hv names hnames hfound =>
    exact ⟨name, List.mem_cons_self, .single ⟨names, hnames, by simpa using hfound⟩⟩
  | case5 visited name todo hv names hnames hfound ih =>
    rw [search_cons, hv, if_neg Bool.false_ne_true, hnames] at h
    obtain ⟨source, hmem, hchain⟩ := ih (by simpa only [if_neg hfound] using h)
    rcases List.mem_append.mp hmem with hmem | hmem
    · have hedge : g.Edge name source := ⟨names, hnames, List.mem_reverse.mp hmem⟩
      exact ⟨name, List.mem_cons_self, .head hedge hchain⟩
    · exact ⟨source, List.mem_cons_of_mem _ hmem, hchain⟩

/-- Where everything that was visited has been followed, no chain leads from there. -/
theorem not_transGen_of_followed {g : ReferenceGraph} {target source : String}
    {visited : List String} (hfollowed : g.Followed target visited [])
    (hsource : source ∈ visited) :
    ¬ Relation.TransGen g.Edge source target := by
  intro hchain
  induction hchain using Relation.TransGen.head_induction_on with
  | single hedge => exact (hfollowed _ hsource _ hedge).1 rfl
  | head hedge _ ih =>
    rcases (hfollowed _ hsource _ hedge).2 with hmem | hmem
    · exact ih hmem
    · cases hmem

theorem search_of_transGen {g : ReferenceGraph} {target source : String}
    {visited todo : List String} (hfollowed : g.Followed target visited todo)
    (hsource : Seen visited todo source) (hchain : Relation.TransGen g.Edge source target) :
    g.search target visited todo = true := by
  induction visited, todo using search.induct g target with
  | case1 visited =>
    -- Nothing waits, so the chain would have to leave what was visited.
    have hmem : source ∈ visited := hsource.resolve_right List.not_mem_nil
    exact absurd hchain (not_transGen_of_followed hfollowed hmem)
  | case2 visited name todo hv ih =>
    have hname : name ∈ visited := by simpa using hv
    rw [search_cons, if_pos hv]
    exact ih (hfollowed.skip hname) (hsource.skip hname)
  | case3 visited name todo hv hnone ih =>
    have hname : ∀ n, g.Edge name n → n ≠ target ∧ n ∈ [] := by
      rintro n ⟨names, hnames, _⟩
      rw [hnone] at hnames
      cases hnames
    rw [search_cons, hv, if_neg Bool.false_ne_true, hnone]
    exact ih (hfollowed.visit hname) (hsource.visit [])
  | case4 visited name todo hv names hnames hfound =>
    rw [search_cons, hv, if_neg Bool.false_ne_true, hnames]
    exact if_pos hfound
  | case5 visited name todo hv names hnames hfound ih =>
    have hname : ∀ n, g.Edge name n → n ≠ target ∧ n ∈ names.reverse := by
      rintro n ⟨held, hheld, hn⟩
      rw [hnames] at hheld
      cases hheld
      refine ⟨?_, List.mem_reverse.mpr hn⟩
      rintro rfl
      exact hfound (by simpa using hn)
    rw [search_cons, hv, if_neg Bool.false_ne_true, hnames]
    apply (if_neg hfound).trans
    exact ih (hfollowed.visit hname) (hsource.visit names.reverse)

theorem reaches_iff_transGen {g : ReferenceGraph} {source target : String} :
    g.reaches source target = true ↔ Relation.TransGen g.Edge source target := by
  constructor
  · intro h
    obtain ⟨name, hname, hchain⟩ := transGen_of_search h
    rw [List.mem_singleton] at hname
    rwa [← hname]
  · intro h
    exact search_of_transGen nofun (.inr List.mem_cons_self) h

/-- The search finds a type exactly when a chain of by-value references leads to it. -/
theorem reaches_ofTypes_iff {types : List ModelType} {source target : String} :
    (ofTypes types).reaches source target = true ↔
      Relation.TransGen (Holds types) source target := by
  have hedges : (ofTypes types).Edge = Holds types := by
    ext owner name
    exact edge_ofTypes
  rw [reaches_iff_transGen, hedges]

/-- A reference closes a cycle exactly when a chain leads from the target back to the owner. -/
theorem closesCycle_ofTypes_iff {types : List ModelType} {owner target : String} :
    (ofTypes types).closesCycle owner target = true ↔
      Relation.ReflTransGen (Holds types) target owner := by
  rw [closesCycle, Bool.or_eq_true, beq_iff_eq, reaches_ofTypes_iff,
    Relation.reflTransGen_iff_eq_or_transGen]

end ReferenceGraph

end ApiForge
