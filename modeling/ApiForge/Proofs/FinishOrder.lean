import ApiForge.Model.Finish
import ApiForge.Proofs.Units

/-!
The end of a run and the order in which things were made. What is boxed, which units are written
anew and with what, and which names lead nowhere are settled by what there is, not by the order in
which it stands, as long as types and comments can be told apart by their names. Main statement: two
runs that hold the same in different orders end with the same in different orders
(`Reordered.finish`).
-/

namespace ApiForge

theorem Registry.contains_perm {r s : Registry} (h : r.names.Perm s.names) (name : String) :
    r.contains name = s.contains name := by
  rw [Bool.eq_iff_iff, contains_iff, contains_iff]
  exact h.mem_iff

namespace ModelType

variable {types others : List ModelType}

theorem holds_perm (h : types.Perm others) : Holds types = Holds others := by
  funext owner target
  rw [holds_iff, holds_iff]
  simp only [h.mem_iff]

/-- What boxing does to a type depends on which types there are only. -/
theorem box_ofTypes_perm (h : types.Perm others) :
    box (ReferenceGraph.ofTypes types) = box (ReferenceGraph.ofTypes others) := by
  have hfield : ∀ owner, Field.box (ReferenceGraph.ofTypes types) owner =
      Field.box (ReferenceGraph.ofTypes others) owner := by
    intro owner
    funext f
    have hcloses : f.closesCycle (ReferenceGraph.ofTypes types) owner =
        f.closesCycle (ReferenceGraph.ofTypes others) owner := by
      rw [Bool.eq_iff_iff, Field.closesCycle_ofTypes_iff, Field.closesCycle_ofTypes_iff,
        holds_perm h]
    rw [Field.box_eq, Field.box_eq, hcloses]
  funext t
  cases t with
  | record r => rw [box, box, hfield]
  | variant v => rw [box, box, hfield]
  | _ => rfl

theorem boxAll_perm (h : types.Perm others) : (boxAll types).Perm (boxAll others) := by
  rw [boxAll, boxAll, box_ofTypes_perm h]
  exact h.map _

theorem mem_boxChanges_perm (h : types.Perm others) (name : String) :
    name ∈ boxChanges types ↔ name ∈ boxChanges others := by
  have hzip : (types.zip (boxAll types)).Perm (others.zip (boxAll others)) := by
    have hpairs : ∀ l : List ModelType, l.zip (boxAll l) =
        l.map fun t => (t, t.box (ReferenceGraph.ofTypes l)) := by
      intro l
      rw [boxAll, List.zip, List.zipWith_map_right, List.zipWith_self]
    rw [hpairs, hpairs, box_ofTypes_perm h]
    exact h.map _
  exact (hzip.filterMap _).mem_iff

/-- Where names differ, the type of a name can be found in any order. -/
theorem find?_name?_perm (h : types.Perm others) (hnodup : (types.filterMap (·.name?)).Nodup)
    (name : String) :
    types.find? (·.name? == some name) = others.find? (·.name? == some name) := by
  have hother : (others.filterMap (·.name?)).Nodup := (h.filterMap _).nodup_iff.mp hnodup
  cases hfind : others.find? (·.name? == some name) with
  | some t =>
    have hname := List.find?_some hfind
    exact ModelRun.find?_name? hnodup (h.mem_iff.mpr (List.mem_of_find?_eq_some hfind))
      (by simpa using hname)
  | none =>
    rw [List.find?_eq_none] at hfind ⊢
    exact fun t ht => hfind t (h.mem_iff.mp ht)

end ModelType

namespace ModelRun

/-! Runs that hold the same. -/

/-- Two runs hold the same in different orders; the work that waits does not count. -/
structure Reordered (run other : ModelRun) : Prop where
  registry : run.registry.names.Perm other.registry.names
  forward : run.forward.Perm other.forward
  notes : run.notes.Perm other.notes
  units : run.units.Perm other.units
  types : run.types.Perm other.types
  plans : run.plans.Perm other.plans
  issues : run.issues.Perm other.issues

end ModelRun

/-- The same outcome in different orders. -/
structure Models.Reordered (models other : Models) : Prop where
  units : models.units.Perm other.units
  types : models.types.Perm other.types
  plans : models.plans.Perm other.plans
  issues : models.issues.Perm other.issues

namespace ModelRun

variable {run other : ModelRun}

theorem Reordered.danglingProblems (h : run.Reordered other) (config : Config) :
    (run.danglingProblems config).Perm (other.danglingProblems config) := by
  have hproblem : run.danglingProblem? config = other.danglingProblem? config := by
    funext owner target
    rw [danglingProblem?, danglingProblem?, Registry.contains_perm h.registry,
      h.forward.contains_eq]
  rw [ModelRun.danglingProblems, ModelRun.danglingProblems, hproblem]
  exact h.types.flatMap_right _

theorem Reordered.renew (h : run.Reordered other) (hnotes : run.notes.keys.Nodup)
    (htypes : run.typeNames.Nodup) :
    renew (ModelType.boxAll run.types) run.notes (ModelType.boxChanges run.types) =
      renew (ModelType.boxAll other.types) other.notes (ModelType.boxChanges other.types) := by
  have hrenewed : renewed? (ModelType.boxAll run.types) run.notes =
      renewed? (ModelType.boxAll other.types) other.notes := by
    funext name
    have hnames : ((ModelType.boxAll run.types).filterMap (·.name?)).Nodup := by
      rwa [names_boxAll]
    rw [renewed?, renewed?, Entries.get?_perm h.notes hnotes,
      ModelType.find?_name?_perm (ModelType.boxAll_perm h.types) hnames]
  funext p
  simp only [ModelRun.renew, hrenewed, ModelType.mem_boxChanges_perm h.types]

/-- Runs that hold the same end with the same. -/
theorem Reordered.finish (h : run.Reordered other) (hnotes : run.notes.keys.Nodup)
    (htypes : run.typeNames.Nodup) (config : Config) :
    (run.finish config).Reordered (other.finish config) where
  units := by
    rw [ModelRun.finish, ModelRun.finish]
    dsimp only
    rw [foldl_rerender_eq_map, foldl_rerender_eq_map, h.renew hnotes htypes]
    exact h.units.map _
  types := ModelType.boxAll_perm h.types
  plans := h.plans
  issues := h.issues.append (h.danglingProblems config)

end ModelRun

end ApiForge
