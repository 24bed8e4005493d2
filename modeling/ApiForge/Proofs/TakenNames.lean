import ApiForge.Proofs.History
import ApiForge.Proofs.Made

/-!
The names that a run has taken. Main statement: they are the names of the types made so far
(`contains_registry_iff`).
-/

namespace ApiForge

namespace Registry

theorem contains_iff {r : Registry} {name : String} : r.contains name = true ↔ name ∈ r.names :=
  List.contains_iff_mem

theorem contains_eq_false_iff {r : Registry} {name : String} :
    r.contains name = false ↔ name ∉ r.names := by
  rw [← contains_iff, Bool.not_eq_true]

theorem mem_claim {r : Registry} {name other : String} :
    other ∈ (r.claim name).names ↔ other ∈ r.names ∨ other = name := by
  rw [claim]
  split
  · next h =>
    constructor
    · exact Or.inl
    · rintro (ho | rfl)
      · exact ho
      · exact contains_iff.mp h
  · rw [List.mem_append, List.mem_singleton]

theorem mem_foldl_claim {α : Type} (name : α → String) (l : List α) {r : Registry}
    {other : String} :
    other ∈ (l.foldl (fun r a => r.claim (name a)) r).names ↔
      other ∈ r.names ∨ other ∈ l.map name := by
  induction l generalizing r with
  | nil => simp
  | cons a rest ih =>
    rw [List.foldl_cons, ih, mem_claim, List.map_cons, List.mem_cons, or_assoc]

end Registry

namespace ModelRun

/-- The names of the types of a run, in the order in which the types were made. -/
def typeNames (run : ModelRun) : List String := run.types.filterMap (·.name?)

theorem filterMap_name?_variants (vs : List Variant) :
    (vs.map ModelType.variant).filterMap (·.name?) = vs.map (·.name) := by
  rw [List.filterMap_map, ← List.filterMap_eq_map]
  rfl

theorem typeNames_addNamed {config : Config} {namespaceName name code : String} {body : Schema}
    {notes : Option String} {type : ModelType} {found : Discovered} (run : ModelRun)
    (h : makeNamed config namespaceName name body notes = .ok (type, code, found)) :
    (run.addNamed name notes type code found).typeNames = run.typeNames ++ [name] := by
  have hname : [type].filterMap (·.name?) = [name] := by
    rw [List.filterMap_cons, (of_makeNamed h).name_eq]
    rfl
  rw [← hname]
  exact List.filterMap_append

theorem typeNames_addUnion (namespaceName : String) (run : ModelRun) (u : DerivedUnion)
    (found : Discovered) :
    (addUnion namespaceName run u found).typeNames =
      run.typeNames ++ u.marker.name :: u.variants.map (·.name) := by
  rw [← filterMap_name?_variants]
  exact List.filterMap_append

/-- Variants that are kept have names of their own, and none that is taken. -/
theorem freeVariants_names (taken : List String) (vs : List Variant) :
    (∀ v ∈ DerivedUnion.freeVariants taken vs, v.name ∉ taken) ∧
      ((DerivedUnion.freeVariants taken vs).map (·.name)).Nodup := by
  induction vs generalizing taken with
  | nil => exact ⟨nofun, .nil⟩
  | cons v rest ih =>
    rw [DerivedUnion.freeVariants]
    split
    · exact ih taken
    · next hv =>
      obtain ⟨hfree, hnodup⟩ := ih (v.name :: taken)
      constructor
      · intro w hw
        rcases List.mem_cons.mp hw with rfl | hw
        · simpa using hv
        · exact fun hmem => hfree w hw (List.mem_cons_of_mem _ hmem)
      · rw [List.map_cons, List.nodup_cons]
        refine ⟨fun hmem => ?_, hnodup⟩
        obtain ⟨w, hw, hname⟩ := List.mem_map.mp hmem
        exact hfree w hw (hname ▸ List.mem_cons_self)

theorem freeVariants_sublist (taken : List String) (vs : List Variant) :
    (DerivedUnion.freeVariants taken vs).Sublist vs := by
  induction vs generalizing taken with
  | nil => exact .slnil
  | cons v rest ih =>
    rw [DerivedUnion.freeVariants]
    split
    · exact (ih taken).cons v
    · exact (ih (v.name :: taken)).cons_cons v

/-- The names that are taken are those of the types. -/
def NamesTaken (run : ModelRun) : Prop :=
  ∀ name, name ∈ run.registry.names ↔ name ∈ run.typeNames

namespace NamesTaken

variable {config : Config} {namespaceName name code : String} {history : List Making}
variable {run : ModelRun} {found : Discovered}

/-- A type that is made takes its name. -/
theorem addNamed (h : run.NamesTaken) {body : Schema} {notes : Option String} {type : ModelType}
    (hmake : makeNamed config namespaceName name body notes = .ok (type, code, found)) :
    ((run.claim name).addNamed name notes type code found).NamesTaken := by
  intro other
  rw [typeNames_addNamed _ hmake, List.mem_append, List.mem_singleton]
  show other ∈ (run.registry.claim name).names ↔ other ∈ run.typeNames ∨ other = name
  rw [Registry.mem_claim, h]

/-- A union that is made takes the names of its marker and of its variants. -/
theorem addUnion (h : run.NamesTaken) (u : DerivedUnion) :
    (addUnion namespaceName run u found).NamesTaken := by
  intro other
  rw [typeNames_addUnion, List.mem_append, List.mem_cons, ← h, ← or_assoc, ← Registry.mem_claim]
  exact Registry.mem_foldl_claim _ u.variants

theorem notMem_typeNames (h : run.NamesTaken) (hfree : run.registry.contains name = false) :
    name ∉ run.typeNames := by
  rw [← h]
  exact Registry.contains_eq_false_iff.mp hfree

end NamesTaken

variable {config : Config} {namespaceName : String} {history : List Making} {run : ModelRun}

theorem invariant_namesTaken : Invariant config namespaceName fun _ run => run.NamesTaken := by
  constructor
  case start => exact fun _ => Iff.rfl
  case note => exact fun _ h => h
  case commit => exact fun _ h => h
  case take => exact fun _ _ h => h
  case named => exact fun h _ hmake => h.addNamed hmake
  case union => exact fun h _ => h.addUnion _

theorem contains_registry_iff (h : Reached config namespaceName history run) (name : String) :
    run.registry.contains name = true ↔ ∃ t ∈ run.types, t.name? = some name := by
  rw [Registry.contains_iff, h.of_invariant invariant_namesTaken]
  exact List.mem_filterMap

end ModelRun

end ApiForge
