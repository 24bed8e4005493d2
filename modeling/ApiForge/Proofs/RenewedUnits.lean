import ApiForge.Proofs.Units

/-!
What the end of a run does to its units. Units are written anew by the names of the types that
boxing changes, with the comments that were kept for them. Main statement: where each unit is
written from its type before, it is written from the boxed type after, in the same place, and a
unit changes only if a field of its type becomes boxed (`units_stay_in_step`).
-/

namespace ApiForge

namespace ModelType

/-- Whether a field of a type of some name is boxed in one list of types and not in the other. -/
def BoxedAnew (before after : List ModelType) (name : String) : Prop :=
  ∃ p ∈ before.zip after, p.1.name? = some name ∧
    p.1.fields.map (·.boxed) ≠ p.2.fields.map (·.boxed)

instance (before after : List ModelType) (name : String) :
    Decidable (BoxedAnew before after name) :=
  inferInstanceAs (Decidable (∃ p ∈ before.zip after, p.1.name? = some name ∧
    p.1.fields.map (·.boxed) ≠ p.2.fields.map (·.boxed)))

theorem boxedCount_congr {t u : ModelType}
    (h : t.fields.map (·.boxed) = u.fields.map (·.boxed)) : t.boxedCount = u.boxedCount := by
  have hcount : ∀ v : ModelType, v.boxedCount = ((v.fields.map (·.boxed)).filter id).length := by
    intro v
    rw [List.filter_map, List.length_map]
    rfl
  rw [hcount, hcount, h]

/-- The types that boxing reports have a field that becomes boxed. -/
theorem boxedAnew_of_mem_boxChanges {types : List ModelType} {name : String}
    (h : name ∈ boxChanges types) : BoxedAnew types (boxAll types) name := by
  obtain ⟨⟨before, after⟩, hmem, hname⟩ := List.mem_filterMap.mp h
  have hafter : after = before.box (.ofTypes types) := by
    rw [boxAll, List.zip_map_right] at hmem
    obtain ⟨⟨t, u⟩, htu, heq⟩ := List.mem_map.mp hmem
    obtain ⟨i, hi, hsame⟩ := List.mem_iff_getElem.mp htu
    rw [List.getElem_zip] at hsame
    obtain ⟨rfl, rfl⟩ := Prod.mk.inj hsame
    obtain ⟨rfl, rfl⟩ := Prod.mk.inj heq
    rfl
  dsimp only at hname
  split at hname
  · cases hname
  · next hcount =>
    refine ⟨(before, after), hmem, ?_, fun hsame => hcount (boxedCount_congr hsame)⟩
    rwa [hafter, name?_box] at hname

end ModelType

namespace ModelRun

variable {config : Config} {namespaceName : String} {run : ModelRun}

/-- The unit of each type is written from it, with the comment kept for it, and no two types have
one name. -/
structure InStep (run : ModelRun) : Prop where
  nodup : run.typeNames.Nodup
  written : ∀ t ∈ run.types, ∀ name, t.name? = some name →
    run.units.get? name = Emit.typeUnit t (run.notes.get? name)

/-- Runs are in step as long as the names of their types and plans are apart. -/
theorem Kept.inStep (h : Kept namespaceName run) (hapart : NamesApart run.types run.plans) :
    run.InStep where
  nodup := h.nodup fun p hp => (hapart p hp).1
  written _ ht _ hname := h.get?_units_type hapart ht hname

/-- The end of a run keeps the names of the units in order and has the unit of each type as the type
is in the end, with the comment kept for it. A unit that no type has the name of, or whose type has
no field that becomes boxed, stays as it is. -/
theorem units_stay_in_step (config : Config) (h : run.InStep) :
    (run.finish config).units.keys = run.units.keys ∧
      (∀ t ∈ (run.finish config).types, ∀ name, t.name? = some name →
        (run.finish config).units.get? name = Emit.typeUnit t (run.notes.get? name)) ∧
      List.Forall₂ (fun before after : String × String => after.1 = before.1 ∧
          (¬ ModelType.BoxedAnew run.types (run.finish config).types before.1 → after = before))
        run.units (run.finish config).units := by
  refine ⟨keys_foldl_rerender _ _, fun t ht name hname => ?_, ?_⟩
  · obtain ⟨u, hu, rfl⟩ := ModelType.mem_boxAll.mp ht
    rw [ModelType.name?_box] at hname
    exact get?_finish_of_written h.nodup hu hname (h.written u hu name hname)
  · have hunits : (run.finish config).units = run.units.map
        (renew (ModelType.boxAll run.types) run.notes (ModelType.boxChanges run.types)) :=
      foldl_rerender_eq_map _ _ _ _
    rw [hunits, List.forall₂_map_right_iff, List.forall₂_same]
    intro p _
    refine ⟨rfl, fun hkept => ?_⟩
    have hnot : p.1 ∉ ModelType.boxChanges run.types :=
      mt ModelType.boxedAnew_of_mem_boxChanges hkept
    rw [renew, if_neg hnot]

/-! A record that holds itself, described by a comment, next to one that holds nothing. -/

def describing : Config := { Config.unchecked with emitMetadata := true }

def chainRun : ModelRun :=
  generateComponents describing "Demo" {}
    [("Link", .node {} (.object [("next", .node {} (.reference "Link"))] ["next"])),
      ("Plain", .node {} .untyped)]

theorem chainRun_inStep : chainRun.InStep := by
  have hreached : Reached describing "Demo" _ chainRun := .components _ .start
  have kept : Kept "Demo" chainRun := hreached.of_invariant invariant_kept
  refine kept.inStep ?_
  decide +kernel

theorem chainRun_stays_in_step :
    chainRun.InStep ∧
      ModelType.BoxedAnew chainRun.types (chainRun.finish describing).types "Link" ∧
      ¬ ModelType.BoxedAnew chainRun.types (chainRun.finish describing).types "Plain" ∧
      (chainRun.finish describing).units.keys = ["Link", "Plain"] ∧
      (∀ t ∈ (chainRun.finish describing).types, ∀ name, t.name? = some name →
        (chainRun.finish describing).units.get? name =
          Emit.typeUnit t (chainRun.notes.get? name)) ∧
      List.Forall₂ (fun before after : String × String => after.1 = before.1 ∧
          (¬ ModelType.BoxedAnew chainRun.types (chainRun.finish describing).types before.1 →
            after = before))
        chainRun.units (chainRun.finish describing).units := by
  obtain ⟨hkeys, hwritten, hkept⟩ := units_stay_in_step describing chainRun_inStep
  have hnames : chainRun.units.keys = ["Link", "Plain"] := by decide +kernel
  refine ⟨chainRun_inStep, ?_, ?_, by rw [hkeys, hnames], hwritten, hkept⟩
  · show ModelType.BoxedAnew chainRun.types (ModelType.boxAll chainRun.types) "Link"
    decide +kernel
  · show ¬ ModelType.BoxedAnew chainRun.types (ModelType.boxAll chainRun.types) "Plain"
    decide +kernel

end ModelRun

end ApiForge
