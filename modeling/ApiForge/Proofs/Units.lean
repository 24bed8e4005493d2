import ApiForge.Proofs.Boxing
import ApiForge.Proofs.TakenNames
import Mathlib.Data.List.Perm.Basic

/-!
The units of a run. Types and plans put their units under names that come from different
derivations: a class name, the name of a marker with an ending, or the texts of an owner and a
title put together. A name that two of them share keeps the unit of the one that came last. Main
statement: the units hold every type and every plan exactly when no variant has the name of its
marker and no type has the name of what decodes a union (`units_kept_iff`).
-/

namespace ApiForge

theorem Name.codecName_injective {a b : String} (h : codecName a = codecName b) : a = b := by
  have hlist := congrArg String.toList h
  rw [codecName, codecName, String.toList_append, String.toList_append] at hlist
  exact String.toList_inj.mp (List.append_cancel_right hlist)

namespace ModelRun

/-! Writing units anew. -/

section Rerender

variable {types : List ModelType} {notes units : Entries String} {name : String}

theorem keys_rerender : (rerender types notes units name).keys = units.keys := by
  unfold rerender
  split <;> simp

theorem keys_foldl_rerender (changes : List String) (units : Entries String) :
    (changes.foldl (rerender types notes) units).keys = units.keys := by
  induction changes generalizing units with
  | nil => rfl
  | cons name rest ih => rw [List.foldl_cons, ih, keys_rerender]

theorem get?_rerender_of_ne {key : String} (h : key ≠ name) :
    (rerender types notes units name).get? key = units.get? key := by
  unfold rerender
  split
  · rw [Entries.get?_replace, if_neg h]
  · rw [Entries.get?_replace, if_neg h]
  · rfl

/-- A unit that no type has the name of is left alone. -/
theorem get?_foldl_rerender_of_find {key : String}
    (hkey : types.find? (·.name? == some key) = none) (changes : List String)
    (units : Entries String) :
    (changes.foldl (rerender types notes) units).get? key = units.get? key := by
  induction changes generalizing units with
  | nil => rfl
  | cons name rest ih =>
    rw [List.foldl_cons, ih]
    by_cases h : key = name
    · subst h
      rw [rerender, hkey]
    · exact get?_rerender_of_ne h

/-- The unit of a type is its own afterwards if it was before, or if the type has fields and is
among those that changed. -/
theorem get?_foldl_rerender {t : ModelType} (ht : types.find? (·.name? == some name) = some t)
    (changes : List String) (units : Entries String) (hthere : units.get? name ≠ none)
    (h : units.get? name = Emit.typeUnit t (notes.get? name) ∨ (name ∈ changes ∧ t.fields ≠ [])) :
    (changes.foldl (rerender types notes) units).get? name =
      Emit.typeUnit t (notes.get? name) := by
  induction changes generalizing units with
  | nil =>
    rcases h with h | ⟨h, _⟩
    · exact h
    · cases h
  | cons changed rest ih =>
    rw [List.foldl_cons]
    by_cases hname : name = changed
    · subst hname
      -- The type is the first of its name, so the unit is written from it.
      have hwritten : (rerender types notes units name).get? name =
          Emit.typeUnit t (notes.get? name) := by
        obtain ⟨code, hcode⟩ := Option.ne_none_iff_exists'.mp hthere
        rw [rerender, ht]
        cases t with
        | record r =>
          rw [Entries.get?_replace, if_pos rfl, hcode]
          rfl
        | variant v =>
          rw [Entries.get?_replace, if_pos rfl, hcode]
          rfl
        | _ =>
          rcases h with h | ⟨_, h⟩
          · exact h
          · exact absurd rfl h
      refine ih _ ?_ (.inl hwritten)
      rwa [ne_eq, Entries.get?_eq_none_iff, keys_rerender, ← Entries.get?_eq_none_iff]
    · have hsame : (rerender types notes units changed).get? name = units.get? name :=
        get?_rerender_of_ne hname
      refine ih _ (by rwa [hsame]) ?_
      rw [hsame]
      rcases h with h | ⟨hmem, h⟩
      · exact .inl h
      · exact .inr ⟨(List.mem_cons.mp hmem).resolve_left hname, h⟩

/-! All units at once. -/

/-- What the unit of a name is written anew with, if it is. -/
def renewed? (types : List ModelType) (notes : Entries String) (name : String) : Option String :=
  match types.find? (·.name? == some name) with
  | some (.record r) => some (Emit.recordUnit r (notes.get? name))
  | some (.variant v) => some (Emit.variantUnit v)
  | _ => none

/-- A unit as it is once those of some names are written anew. -/
def renew (types : List ModelType) (notes : Entries String) (changes : List String)
    (p : String × String) : String × String :=
  (p.1, if p.1 ∈ changes then (renewed? types notes p.1).getD p.2 else p.2)

theorem rerender_eq_match (types : List ModelType) (notes units : Entries String) (name : String) :
    rerender types notes units name =
      match renewed? types notes name with
      | some code => units.replace name code
      | none => units := by
  rw [rerender, renewed?]
  cases types.find? (·.name? == some name) with
  | none => rfl
  | some t => cases t <;> rfl

theorem rerender_eq_map (types : List ModelType) (notes units : Entries String) (name : String) :
    rerender types notes units name = units.map (renew types notes [name]) := by
  rw [rerender_eq_match]
  cases hrenewed : renewed? types notes name with
  | some code =>
    refine List.map_congr_left fun p _ => ?_
    by_cases hp : p.1 = name <;> simp [renew, hp, hrenewed]
  | none =>
    have hkeep : ∀ p ∈ units, renew types notes [name] p = p := by
      intro p _
      by_cases hp : p.1 = name
      · simp [renew, ← hp, hp ▸ hrenewed]
      · simp [renew, hp]
    rw [List.map_congr_left hkeep, List.map_id']

/-- Writing a unit anew once more changes nothing, so only whether a name is among those whose unit
is written anew counts. -/
theorem renew_renew (types : List ModelType) (notes : Entries String) (name : String)
    (rest : List String) (p : String × String) :
    renew types notes rest (renew types notes [name] p) = renew types notes (name :: rest) p := by
  by_cases hname : p.1 = name
  · cases hrenewed : renewed? types notes name <;> simp [renew, hname, hrenewed]
  · simp [renew, hname]

theorem foldl_rerender_eq_map (types : List ModelType) (notes : Entries String)
    (changes : List String) (units : Entries String) :
    changes.foldl (rerender types notes) units = units.map (renew types notes changes) := by
  induction changes generalizing units with
  | nil =>
    have hnone : renew types notes [] = id := by
      funext p
      simp [renew]
    rw [List.foldl_nil, hnone, List.map_id]
  | cons name rest ih =>
    rw [List.foldl_cons, ih, rerender_eq_map, List.map_map]
    exact List.map_congr_left fun p _ => renew_renew types notes name rest p

end Rerender

/-! What was put into the units. -/

/-- What a type puts into the units. -/
def typeDeposit (notes : Entries String) (t : ModelType) : Option (String × String) :=
  t.name?.bind fun name => (Emit.typeUnit t (notes.get? name)).map (name, ·)

def planDeposit (namespaceName : String) (p : Plan) : String × String :=
  (Name.codecName p.union, Emit.codecUnit p namespaceName)

/-- What the types and plans of a run put into the units. -/
def deposits (namespaceName : String) (run : ModelRun) : List (String × String) :=
  run.types.filterMap (typeDeposit run.notes) ++ run.plans.map (planDeposit namespaceName)

theorem typeDeposit_of_name {notes : Entries String} {t : ModelType} {name : String}
    (h : t.name? = some name) :
    ∃ code, Emit.typeUnit t (notes.get? name) = some code ∧
      typeDeposit notes t = some (name, code) := by
  have hunit : ∃ code, Emit.typeUnit t (notes.get? name) = some code := by
    cases t with
    | record r => exact ⟨_, rfl⟩
    | enumeration e => exact ⟨_, rfl⟩
    | marker m => exact ⟨_, rfl⟩
    | variant v => exact ⟨_, rfl⟩
    | _ => cases h
  obtain ⟨code, hcode⟩ := hunit
  refine ⟨code, hcode, ?_⟩
  rw [typeDeposit, h, Option.bind_some, hcode, Option.map_some]

theorem typeDeposit_isNone {notes : Entries String} {t : ModelType} (h : t.name? = none) :
    typeDeposit notes t = none := by
  rw [typeDeposit, h, Option.bind_none]

theorem keys_filterMap_typeDeposit (notes : Entries String) (types : List ModelType) :
    Entries.keys (types.filterMap (typeDeposit notes)) = types.filterMap (·.name?) := by
  induction types with
  | nil => rfl
  | cons t rest ih =>
    rw [List.filterMap_cons, List.filterMap_cons]
    cases hname : t.name? with
    | none =>
      rw [typeDeposit_isNone hname]
      exact ih
    | some name =>
      obtain ⟨code, _, hdeposit⟩ := @typeDeposit_of_name notes t name hname
      rw [hdeposit]
      exact congrArg (name :: ·) ih

theorem keys_deposits (namespaceName : String) (run : ModelRun) :
    Entries.keys (deposits namespaceName run) =
      run.typeNames ++ run.plans.map fun p => Name.codecName p.union := by
  rw [deposits, Entries.keys_append, keys_filterMap_typeDeposit, typeNames]
  refine congrArg _ ?_
  rw [Entries.keys, List.map_map]
  rfl

theorem typeDeposit_congr {notes more : Entries String} {t : ModelType}
    (h : ∀ name, t.name? = some name → more.get? name = notes.get? name) :
    typeDeposit more t = typeDeposit notes t := by
  cases hname : t.name? with
  | none => rw [typeDeposit_isNone hname, typeDeposit_isNone hname]
  | some name =>
    rw [typeDeposit, typeDeposit, hname, Option.bind_some, Option.bind_some, h name hname]

section Steps

variable {config : Config} {namespaceName name code : String} {run : ModelRun}
variable {notes : Option String} {type : ModelType} {found : Discovered}

/-- Of all comments only that about the new type changes. -/
theorem get?_notes_addNamed (hnotes : name ∉ run.notes.keys) (other : String) :
    (run.addNamed name notes type code found).notes.get? other =
      if other = name then notes else run.notes.get? other := by
  cases notes with
  | none =>
    change run.notes.get? other = _
    split
    · next heq =>
      rw [heq, Entries.get?_eq_none_iff]
      exact hnotes
    · rfl
  | some text => exact Entries.get?_put name other text run.notes

theorem mem_keys_notes_addNamed {other : String}
    (h : other ∈ (run.addNamed name notes type code found).notes.keys) :
    other ∈ run.notes.keys ∨ other = name := by
  cases notes with
  | none => exact .inl h
  | some text => exact (Entries.mem_keys_put.mp h).symm

/-- A new type puts its unit next to those that are there. -/
theorem deposits_addNamed (run : ModelRun) {body : Schema} (hname : name ∉ run.typeNames)
    (hnotes : name ∉ run.notes.keys)
    (hmake : makeNamed config namespaceName name body notes = .ok (type, code, found)) :
    (deposits namespaceName run ++ [(name, code)]).Perm
      (deposits namespaceName (run.addNamed name notes type code found)) := by
  have hmade := of_makeNamed hmake
  have hold : run.types.filterMap (typeDeposit (run.addNamed name notes type code found).notes) =
      run.types.filterMap (typeDeposit run.notes) := by
    apply List.filterMap_congr
    intro t ht
    apply typeDeposit_congr
    intro other hother
    have hne : other ≠ name := by
      rintro rfl
      exact hname (List.mem_filterMap.mpr ⟨t, ht, hother⟩)
    rw [get?_notes_addNamed hnotes, if_neg hne]
  have hnew : [type].filterMap (typeDeposit (run.addNamed name notes type code found).notes) =
      [(name, code)] := by
    have htype : typeDeposit (run.addNamed name notes type code found).notes type =
        some (name, code) := by
      rw [typeDeposit, hmade.name_eq, Option.bind_some, get?_notes_addNamed hnotes, if_pos rfl,
        hmade.unit_eq, Option.map_some]
    rw [List.filterMap_cons, htype]
    rfl
  have hdeposits : deposits namespaceName (run.addNamed name notes type code found) =
      run.types.filterMap (typeDeposit run.notes) ++ [(name, code)] ++
        run.plans.map (planDeposit namespaceName) := by
    rw [← hold, ← hnew, ← List.filterMap_append]
    rfl
  -- The unit was put last and is listed with those of the types.
  rw [hdeposits, deposits, List.append_assoc, List.append_assoc]
  exact List.perm_append_comm.append_left _

/-- A union puts its units next to those that are there. -/
theorem deposits_addUnion (namespaceName name : String) (run : ModelRun) (ws : List Variant)
    (found : Discovered) :
    (deposits namespaceName run ++
        unionUnits namespaceName (.ofVariants name namespaceName ws)).Perm
      (deposits namespaceName
        (addUnion namespaceName run (.ofVariants name namespaceName ws) found)) := by
  let u := DerivedUnion.ofVariants name namespaceName ws
  have hmarker : typeDeposit run.notes (.marker u.marker) =
      some (name, Emit.markerUnit u.marker) := rfl
  have htypes : (ModelType.marker u.marker :: ws.map .variant).filterMap (typeDeposit run.notes) =
      (name, Emit.markerUnit u.marker) :: ws.map fun v => (v.name, Emit.variantUnit v) := by
    rw [List.filterMap_cons, hmarker, List.filterMap_map, ← List.filterMap_eq_map]
    rfl
  have hdeposits : deposits namespaceName (addUnion namespaceName run u found) =
      run.types.filterMap (typeDeposit run.notes) ++
        ((name, Emit.markerUnit u.marker) :: ws.map fun v => (v.name, Emit.variantUnit v)) ++
        (run.plans.map (planDeposit namespaceName) ++
          [planDeposit namespaceName (Plan.ofVariants name ws)]) := by
    rw [← htypes, ← List.filterMap_append, ← List.map_singleton, ← List.map_append]
    rfl
  rw [hdeposits, deposits, unionUnits, List.append_assoc, List.append_assoc]
  apply List.Perm.append_left
  rw [← List.append_assoc, ← List.append_assoc]
  exact List.perm_append_comm.append_right _

end Steps

/-- What a run keeps about its units and names. -/
structure Kept (namespaceName : String) (run : ModelRun) : Prop where
  taken : run.NamesTaken
  /-- Comments are those about types. -/
  noted : ∀ name ∈ run.notes.keys, name ∈ run.typeNames
  named : ∀ t ∈ run.types, ∃ name, t.name? = some name
  /-- The units are what was put there, in some order. -/
  units : ∃ put : List (String × String), run.units = Entries.putAll [] put ∧
    put.Perm (deposits namespaceName run)
  /-- The types of a plan stand among the types, the marker before the variants. -/
  planned : ∀ p ∈ run.plans, (p.union :: p.variants.map (·.typeName)).Sublist run.typeNames
  unions : (run.plans.map (·.union)).Nodup
  /-- Only a variant with the name of its marker repeats a name. -/
  nodup : (∀ p ∈ run.plans, ∀ v ∈ p.variants, v.typeName ≠ p.union) → run.typeNames.Nodup

variable {config : Config} {namespaceName : String} {history : List Making} {run : ModelRun}

theorem Kept.union_mem (h : Kept namespaceName run) {p : Plan} (hp : p ∈ run.plans) :
    p.union ∈ run.typeNames :=
  (h.planned p hp).subset List.mem_cons_self

/-- A type that is made keeps what holds. Its name is free, so it takes the place of no unit that a
type put there, and no comment changes but its own. -/
theorem Kept.addNamed (h : Kept namespaceName run) {name : String} {body : Schema}
    {notes : Option String} {type : ModelType} {code : String} {found : Discovered}
    (hfree : run.registry.contains name = false)
    (hmake : makeNamed config namespaceName name body notes = .ok (type, code, found)) :
    Kept namespaceName ((run.claim name).addNamed name notes type code found) := by
  have hnew : name ∉ run.typeNames := h.taken.notMem_typeNames hfree
  have hnotes : name ∉ run.notes.keys := fun hmem => hnew (h.noted name hmem)
  have hnames : ((run.claim name).addNamed name notes type code found).typeNames =
      run.typeNames ++ [name] := typeNames_addNamed (run.claim name) hmake
  constructor
  case taken => exact h.taken.addNamed hmake
  case noted =>
    intro other hother
    rw [hnames, List.mem_append, List.mem_singleton]
    exact (mem_keys_notes_addNamed hother).imp_left (h.noted other)
  case named =>
    intro t ht
    rcases List.mem_append.mp ht with ht | ht
    · exact h.named t ht
    · rw [List.mem_singleton] at ht
      exact ⟨name, ht ▸ (of_makeNamed hmake).name_eq⟩
  case units =>
    obtain ⟨put, hput, hperm⟩ := h.units
    refine ⟨put ++ [(name, code)], ?_, ?_⟩
    · rw [Entries.putAll_append, ← hput]
      rfl
    · exact (hperm.append_right _).trans
        (deposits_addNamed (run.claim name) hnew hnotes hmake)
  case planned =>
    intro p hp
    rw [hnames]
    exact (h.planned p hp).trans (List.sublist_append_left _ _)
  case unions => exact h.unions
  case nodup =>
    intro hclash
    rw [hnames]
    simpa using (h.nodup hclash).concat hnew

/-- The names of the types of a union come next to those that are there: that of the union is free,
and so are those of its variants, except that one of these may be the name of the union itself. -/
theorem nodup_append_union {names variants : List String} {name : String} (h : names.Nodup)
    (hnew : name ∉ names) (hvariants : ∀ v ∈ variants, v ∉ names) (hdistinct : variants.Nodup)
    (hown : name ∉ variants) : (names ++ name :: variants).Nodup := by
  rw [List.nodup_append]
  refine ⟨h, List.nodup_cons.mpr ⟨hown, hdistinct⟩, ?_⟩
  rintro a ha b hb rfl
  rcases List.mem_cons.mp hb with rfl | hb
  · exact hnew ha
  · exact hvariants a hb ha

theorem name?_of_mem_union {u : DerivedUnion} {t : ModelType}
    (ht : t ∈ .marker u.marker :: u.variants.map .variant) : ∃ name, t.name? = some name := by
  rcases List.mem_cons.mp ht with rfl | ht
  · exact ⟨u.marker.name, rfl⟩
  · obtain ⟨v, _, rfl⟩ := List.mem_map.mp ht
    exact ⟨v.name, rfl⟩

/-- A union that is made keeps what holds. -/
theorem Kept.addUnion (h : Kept namespaceName run) {group : UnionGroup} {u : DerivedUnion}
    {found : Discovered}
    (hmake : makeUnion config namespaceName run.registry group = .ok (some (u, found))) :
    Kept namespaceName (addUnion namespaceName run u found) := by
  obtain ⟨hfree, vs, rfl, _⟩ := of_makeUnion hmake
  obtain ⟨hvariants, hdistinct⟩ := freeVariants_names run.registry.names vs
  generalize DerivedUnion.freeVariants run.registry.names vs = ws at hvariants hdistinct hmake ⊢
  generalize Name.unionName group.owner = name at hfree hmake ⊢
  have hnew : name ∉ run.typeNames := h.taken.notMem_typeNames hfree
  have hnames : (ModelRun.addUnion namespaceName run
      (.ofVariants name namespaceName ws) found).typeNames =
        run.typeNames ++ name :: ws.map (·.name) := typeNames_addUnion _ _ _ _
  have htables : (Plan.ofVariants name ws).variants.map (·.typeName) = ws.map (·.name) :=
    Plan.typeNames_ofVariants name ws
  constructor
  case taken => exact h.taken.addUnion _
  case noted =>
    intro other hother
    rw [hnames]
    exact List.mem_append_left _ (h.noted other hother)
  case named =>
    intro t ht
    exact (List.mem_append.mp ht).elim (h.named t) name?_of_mem_union
  case units =>
    obtain ⟨put, hput, hperm⟩ := h.units
    refine ⟨put ++ unionUnits namespaceName (.ofVariants name namespaceName ws), ?_, ?_⟩
    · rw [Entries.putAll_append, ← hput]
      rfl
    · exact (hperm.append_right _).trans (deposits_addUnion namespaceName name run ws found)
  case planned =>
    intro p hp
    rw [hnames]
    rcases List.mem_append.mp hp with hp | hp
    · exact (h.planned p hp).trans (List.sublist_append_left _ _)
    · obtain rfl : p = Plan.ofVariants name ws := List.mem_singleton.mp hp
      rw [htables]
      exact List.sublist_append_right _ _
  case unions =>
    have hfresh : name ∉ run.plans.map (·.union) := by
      intro hmem
      obtain ⟨p, hp, hunion⟩ := List.mem_map.mp hmem
      exact hnew (hunion ▸ h.union_mem hp)
    exact Plan.nodup_unions_append h.unions hfresh
  case nodup =>
    intro hclash
    have hold : run.typeNames.Nodup :=
      h.nodup fun p hp => hclash p (List.mem_append_left _ hp)
    -- A variant with the name of the marker would be claimed a second time.
    have hown : name ∉ ws.map (·.name) := by
      rw [← htables]
      intro hmem
      obtain ⟨v, hv, hname⟩ := List.mem_map.mp hmem
      exact hclash _ (List.mem_append_right _ List.mem_cons_self) v hv hname
    have hfresh : ∀ v ∈ ws.map (·.name), v ∉ run.typeNames := by
      rintro _ hmem hold
      obtain ⟨v, hv, rfl⟩ := List.mem_map.mp hmem
      exact hvariants v hv ((h.taken _).mpr hold)
    rw [hnames]
    exact nodup_append_union hold hnew hfresh hdistinct hown

theorem invariant_kept : Invariant config namespaceName fun _ run => Kept namespaceName run := by
  constructor
  case start =>
    exact ⟨fun _ => Iff.rfl, nofun, nofun, ⟨[], rfl, .nil⟩, nofun, .nil, fun _ => .nil⟩
  case note =>
    exact fun _ h => ⟨h.taken, h.noted, h.named, h.units, h.planned, h.unions, h.nodup⟩
  case commit =>
    exact fun _ h => ⟨h.taken, h.noted, h.named, h.units, h.planned, h.unions, h.nodup⟩
  case take =>
    exact fun _ _ h => ⟨h.taken, h.noted, h.named, h.units, h.planned, h.unions, h.nodup⟩
  case named => exact fun h hfree hmake => h.addNamed hfree hmake
  case union => exact fun h hmake => h.addUnion hmake

end ModelRun

/-- No variant has the name of its marker, and no type has the name of what decodes a union. -/
def NamesApart (types : List ModelType) (plans : List Plan) : Prop :=
  ∀ p ∈ plans, (∀ v ∈ p.variants, v.typeName ≠ p.union) ∧
    ∀ t ∈ types, t.name? ≠ some (Name.codecName p.union)

namespace ModelRun

variable {config : Config} {namespaceName : String} {history : List Making} {run : ModelRun}

/-- The units have names of their own exactly when the names of types and plans are apart. -/
theorem Kept.nodup_iff (h : Kept namespaceName run) :
    (Entries.keys (deposits namespaceName run)).Nodup ↔ NamesApart run.types run.plans := by
  rw [keys_deposits, List.nodup_append]
  constructor
  · rintro ⟨htypes, _, hcross⟩ p hp
    refine ⟨fun v hv heq => ?_, fun t ht heq => ?_⟩
    · have hunion := htypes.sublist (h.planned p hp)
      rw [List.nodup_cons] at hunion
      exact hunion.1 (List.mem_map.mpr ⟨v, hv, heq⟩)
    · exact hcross _ (List.mem_filterMap.mpr ⟨t, ht, heq⟩) _ (List.mem_map.mpr ⟨p, hp, rfl⟩) rfl
  · intro hapart
    refine ⟨h.nodup fun p hp => (hapart p hp).1, ?_, ?_⟩
    · have hcodecs : run.plans.map (fun p => Name.codecName p.union) =
          (run.plans.map (·.union)).map Name.codecName := by
        rw [List.map_map]
        rfl
      rw [hcodecs]
      exact h.unions.map fun _ _ => Name.codecName_injective
    · intro a ha b hb heq
      obtain ⟨t, ht, hname⟩ := List.mem_filterMap.mp ha
      obtain ⟨p, hp, rfl⟩ := List.mem_map.mp hb
      exact (hapart p hp).2 t ht (heq ▸ hname)

theorem Kept.length_deposits (h : Kept namespaceName run) :
    (deposits namespaceName run).length = run.types.length + run.plans.length := by
  have htypes : (run.types.filterMap (typeDeposit run.notes)).length = run.types.length := by
    rw [List.filterMap_length_eq_length]
    intro t ht
    obtain ⟨name, hname⟩ := h.named t ht
    obtain ⟨code, _, hdeposit⟩ := typeDeposit_of_name hname
    rw [hdeposit]
    rfl
  rw [deposits, List.length_append, htypes, List.length_map]

theorem Kept.length_units_iff (h : Kept namespaceName run) :
    run.units.length = run.types.length + run.plans.length ↔
      NamesApart run.types run.plans := by
  obtain ⟨put, hput, hperm⟩ := h.units
  have hkeys : (Entries.keys put).Nodup ↔ (Entries.keys (deposits namespaceName run)).Nodup :=
    (hperm.map Prod.fst).nodup_iff
  rw [← h.nodup_iff, ← h.length_deposits, ← hkeys, hput, ← hperm.length_eq]
  exact Entries.length_putAll_eq_iff

/-- Where names are apart, everything that was put into the units is there. -/
theorem Kept.get?_units (h : Kept namespaceName run) (hapart : NamesApart run.types run.plans)
    {name code : String} (hmem : (name, code) ∈ deposits namespaceName run) :
    run.units.get? name = some code := by
  obtain ⟨put, hput, hperm⟩ := h.units
  have hnodup : (Entries.keys put).Nodup :=
    (hperm.map Prod.fst).nodup_iff.mpr (h.nodup_iff.mpr hapart)
  rw [hput, Entries.putAll_of_nodup (t := []) hnodup, List.nil_append,
    Entries.get?_eq_some_iff hnodup]
  exact hperm.mem_iff.mpr hmem

/-! The end of a run. -/

theorem names_boxAll (types : List ModelType) :
    (ModelType.boxAll types).filterMap (·.name?) = types.filterMap (·.name?) := by
  rw [ModelType.boxAll, List.filterMap_map]
  refine List.filterMap_congr fun t _ => ?_
  rw [Function.comp_apply, ModelType.name?_box]

theorem namesApart_boxAll {types : List ModelType} {plans : List Plan} :
    NamesApart (ModelType.boxAll types) plans ↔ NamesApart types plans := by
  have hnames : ∀ name, (∀ t ∈ ModelType.boxAll types, t.name? ≠ some name) ↔
      ∀ t ∈ types, t.name? ≠ some name := by
    intro name
    simp [ModelType.boxAll]
  simp only [NamesApart, hnames]

theorem length_finish_units (config : Config) (run : ModelRun) :
    (run.finish config).units.length = run.units.length := by
  have hkeys : (run.finish config).units.keys = run.units.keys := keys_foldl_rerender _ _
  simpa [Entries.keys] using congrArg List.length hkeys

/-- The first type of a name is the type itself where names differ. -/
theorem find?_name? {types : List ModelType} (hnodup : (types.filterMap (·.name?)).Nodup)
    {t : ModelType} (ht : t ∈ types) {name : String} (hname : t.name? = some name) :
    types.find? (·.name? == some name) = some t := by
  induction types with
  | nil => cases ht
  | cons u rest ih =>
    rcases List.mem_cons.mp ht with rfl | ht
    · rw [List.find?_cons, hname]
      simp
    · have hmem : name ∈ rest.filterMap (·.name?) := List.mem_filterMap.mpr ⟨t, ht, hname⟩
      rw [List.filterMap_cons] at hnodup
      have hne : u.name? ≠ some name := by
        intro hu
        rw [hu, List.nodup_cons] at hnodup
        exact hnodup.1 hmem
      rw [List.find?_cons, beq_eq_false_iff_ne.mpr hne]
      refine ih ?_ ht
      cases hu : u.name? with
      | none => rwa [hu] at hnodup
      | some other =>
        rw [hu, List.nodup_cons] at hnodup
        exact hnodup.2

/-- Boxing changes a type only where it has fields, and reports it then. -/
theorem mem_boxChanges {types : List ModelType} {t : ModelType} (ht : t ∈ types) {name : String}
    (hname : t.name? = some name) (hchanged : t.box (.ofTypes types) ≠ t) :
    name ∈ ModelType.boxChanges types := by
  refine List.mem_filterMap.mpr ⟨(t, t.box (.ofTypes types)), ?_, ?_⟩
  · rw [ModelType.boxAll, List.zip_map_right]
    refine List.mem_map.mpr ⟨(t, t), ?_, rfl⟩
    obtain ⟨i, hi, rfl⟩ := List.mem_iff_getElem.mp ht
    exact List.mem_iff_getElem.mpr ⟨i, by simpa using hi, by rw [List.getElem_zip]⟩
  · dsimp only
    rw [if_neg (mt ModelType.box_eq_iff_boxedCount.mpr hchanged), ModelType.name?_box, hname]

theorem fields_ne_nil_of_box_ne {g : ReferenceGraph} {t : ModelType} (h : t.box g ≠ t) :
    (t.box g).fields ≠ [] := by
  intro hfields
  rw [ModelType.fields_box, List.map_eq_nil_iff] at hfields
  refine h (ModelType.box_eq_iff_boxedCount.mpr ?_)
  rw [ModelType.boxedCount, ModelType.boxedCount, ModelType.fields_box, hfields]
  rfl

/-- Where the names of types differ, a unit that is written from its type is so in the end as well,
whether boxing changes the type or not. -/
theorem get?_finish_of_written (hnodup : run.typeNames.Nodup) {t : ModelType} (ht : t ∈ run.types)
    {name : String} (hname : t.name? = some name)
    (hunit : run.units.get? name = Emit.typeUnit t (run.notes.get? name)) :
    (run.finish config).units.get? name =
      Emit.typeUnit (t.box (.ofTypes run.types)) (run.notes.get? name) := by
  obtain ⟨code, hcode, -⟩ := @typeDeposit_of_name run.notes t name hname
  have hnames : ((ModelType.boxAll run.types).filterMap (·.name?)).Nodup := by
    rwa [names_boxAll]
  have hthere : run.units.get? name ≠ none := by
    rw [hunit, hcode]
    exact Option.some_ne_none code
  refine get?_foldl_rerender (find?_name? hnames (ModelType.mem_boxAll.mpr ⟨t, ht, rfl⟩)
    (by rw [ModelType.name?_box, hname])) _ _ hthere ?_
  by_cases hchanged : t.box (.ofTypes run.types) = t
  · left
    rw [hchanged, hunit]
  · exact .inr ⟨mem_boxChanges ht hname hchanged, fields_ne_nil_of_box_ne hchanged⟩

/-- Where names are apart, the unit of a type is that of the type. -/
theorem Kept.get?_units_type (h : Kept namespaceName run) (hapart : NamesApart run.types run.plans)
    {t : ModelType} (ht : t ∈ run.types) {name : String} (hname : t.name? = some name) :
    run.units.get? name = Emit.typeUnit t (run.notes.get? name) := by
  obtain ⟨code, hcode, hdeposit⟩ := @typeDeposit_of_name run.notes t name hname
  rw [hcode]
  exact h.get?_units hapart (List.mem_append_left _ (List.mem_filterMap.mpr ⟨t, ht, hdeposit⟩))

/-- Where names are apart, the unit of a type is written from the type as it is in the end. -/
theorem Kept.get?_finish_type (h : Kept namespaceName run)
    (hapart : NamesApart run.types run.plans) {t : ModelType} (ht : t ∈ run.types) :
    ∃ name, (t.box (.ofTypes run.types)).name? = some name ∧
      (run.finish config).units.get? name =
        Emit.typeUnit (t.box (.ofTypes run.types)) (run.notes.get? name) := by
  obtain ⟨name, hname⟩ := h.named t ht
  refine ⟨name, by rw [ModelType.name?_box, hname], ?_⟩
  exact get?_finish_of_written (h.nodup fun p hp => (hapart p hp).1) ht hname
    (h.get?_units_type hapart ht hname)

theorem Kept.get?_finish_plan (h : Kept namespaceName run)
    (hapart : NamesApart run.types run.plans) {p : Plan} (hp : p ∈ run.plans) :
    (run.finish config).units.get? (Name.codecName p.union) =
      some (Emit.codecUnit p namespaceName) := by
  have hunit : run.units.get? (Name.codecName p.union) = some (Emit.codecUnit p namespaceName) :=
    h.get?_units hapart (List.mem_append_right _ (List.mem_map.mpr ⟨p, hp, rfl⟩))
  have hfind : (ModelType.boxAll run.types).find?
      (·.name? == some (Name.codecName p.union)) = none := by
    rw [List.find?_eq_none]
    intro t ht
    simpa using (namesApart_boxAll.mpr hapart p hp).2 t ht
  rw [← hunit]
  exact get?_foldl_rerender_of_find hfind _ _

/-- Every type and every plan has a unit of its own, with the code of the type or plan as it is in
the end, exactly when no variant has the name of its marker and no type has the name of what decodes
a union. -/
theorem units_kept_iff (h : Reached config namespaceName history run) :
    ((run.finish config).units.length =
        (run.finish config).types.length + (run.finish config).plans.length ∧
      (∀ t ∈ (run.finish config).types, ∃ name, t.name? = some name ∧
        (run.finish config).units.get? name = Emit.typeUnit t (run.notes.get? name)) ∧
      ∀ p ∈ (run.finish config).plans,
        (run.finish config).units.get? (Name.codecName p.union) =
          some (Emit.codecUnit p namespaceName)) ↔
    NamesApart (run.finish config).types (run.finish config).plans := by
  have kept : Kept namespaceName run := h.of_invariant invariant_kept
  have hapart : NamesApart (run.finish config).types (run.finish config).plans ↔
      NamesApart run.types run.plans := namesApart_boxAll
  have htypes : (run.finish config).types.length = run.types.length := List.length_map _
  rw [hapart]
  constructor
  · rintro ⟨hlength, _, _⟩
    rw [length_finish_units, htypes] at hlength
    exact kept.length_units_iff.mp hlength
  · intro hnames
    refine ⟨?_, fun t ht => ?_, fun p hp => kept.get?_finish_plan hnames hp⟩
    · rw [length_finish_units, htypes]
      exact kept.length_units_iff.mpr hnames
    · obtain ⟨u, hu, rfl⟩ := ModelType.mem_boxAll.mp ht
      exact kept.get?_finish_type hnames hu

instance (types : List ModelType) (plans : List Plan) : Decidable (NamesApart types plans) :=
  inferInstanceAs (Decidable (∀ p ∈ plans, (∀ v ∈ p.variants, v.typeName ≠ p.union) ∧
    ∀ t ∈ types, t.name? ≠ some (Name.codecName p.union)))

/-! A record with a union, alone and next to a schema with the name of what decodes the union. -/

def questionSchema : Schema :=
  .node {} (.object [("choice", .node {} (.oneOf [
    .node { title := some "A" } (.object [("x", .node {} (.primitive "string" none))] [])]))] [])

def questionRun : ModelRun :=
  generateComponents .unchecked "Demo" {} [("Question", questionSchema)]

/-- The run of the record next to a schema with the name of what decodes its union. -/
def clashingRun : ModelRun :=
  generateComponents .unchecked "Demo" {}
    [("ChoiceOneOfCodec", .node {} .untyped), ("Question", questionSchema)]

theorem questionRun_kept :
    ∃ history, Reached .unchecked "Demo" history questionRun ∧
      (questionRun.finish .unchecked).units.length =
        (questionRun.finish .unchecked).types.length +
          (questionRun.finish .unchecked).plans.length := by
  have hreached : Reached .unchecked "Demo" _ questionRun := .components _ .start
  refine ⟨_, hreached, ((units_kept_iff hreached).mpr ?_).1⟩
  have hapart : NamesApart questionRun.types questionRun.plans := by decide +kernel
  exact namesApart_boxAll.mpr hapart

theorem clashingRun_overwritten :
    (clashingRun.finish .unchecked).units.length = 4 ∧
      (clashingRun.finish .unchecked).types.length = 4 ∧
      (clashingRun.finish .unchecked).plans.length = 1 := by
  have hunits : clashingRun.units.length = 4 := by decide +kernel
  have htypes : clashingRun.types.length = 4 := by decide +kernel
  have hplans : clashingRun.plans.length = 1 := by decide +kernel
  refine ⟨?_, ?_, hplans⟩
  · rw [length_finish_units, hunits]
  · exact (List.length_map _).trans htypes

end ModelRun

end ApiForge
