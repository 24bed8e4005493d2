import ApiForge.Proofs.Failure
import ApiForge.Proofs.FirstMade
import ApiForge.Proofs.Units

/-!
The pieces of work of a run, one by one. A piece of work derives names of its own, and what becomes
of it depends on the run in nothing but which of these are taken. Main statement: where none of them
is, a run gains exactly what a new run would (`perform_of_apart`).
-/

namespace ApiForge

/-- A schema that a run takes up, or a union. -/
inductive Task where
  | named (c : Candidate)
  | union (g : UnionGroup)

def UnionGroup.variantNames (g : UnionGroup) : List String :=
  g.variants.map fun s => DerivedUnion.variantName g.owner (s.notes.title.getD "")

namespace ModelRun

/-- Two runs one after the other, with everything that they hold. -/
def append (run more : ModelRun) : ModelRun where
  registry := ⟨run.registry.names ++ more.registry.names⟩
  pending := run.pending ++ more.pending
  unions := run.unions ++ more.unions
  forward := run.forward ++ more.forward
  notes := run.notes ++ more.notes
  units := run.units ++ more.units
  types := run.types ++ more.types
  plans := run.plans ++ more.plans
  issues := run.issues ++ more.issues

instance : Append ModelRun := ⟨append⟩

/-- Some names are not those of anything in a run. -/
structure Apart (run : ModelRun) (names : List String) : Prop where
  registry : ∀ n ∈ names, n ∉ run.registry.names
  notes : ∀ n ∈ names, n ∉ run.notes.keys
  units : ∀ n ∈ names, n ∉ run.units.keys

theorem apart_start (names : List String) : Apart {} names :=
  ⟨fun _ _ => List.not_mem_nil, fun _ _ => List.not_mem_nil, fun _ _ => List.not_mem_nil⟩

end ModelRun

namespace Task

/-- The names that a piece of work derives: that of a schema, or those of a marker, its variants and
what decodes it. Where something stands in the way of an alternative, only the marker is named. -/
def names : Task → List String
  | named c => [c.name]
  | union g => Name.unionName g.owner ::
      if g.obstacle?.isSome then []
      else g.variantNames ++ [Name.codecName (Name.unionName g.owner)]

variable (config : Config) (namespaceName : String)

def perform (run : ModelRun) : Task → ModelRun
  | named c => ModelRun.generateNamed config namespaceName run c.key c.declared c.body
  | union g => ModelRun.generateUnion config namespaceName run g

/-- What a piece of work leads to in a new run. -/
def alone (t : Task) : ModelRun := t.perform config namespaceName {}

end Task

theorem Registry.claim_of_notMem {r : Registry} {name : String} (h : name ∉ r.names) :
    r.claim name = ⟨r.names ++ [name]⟩ := by
  rw [claim, if_neg (by simpa [contains_iff] using h)]

theorem Registry.foldl_claim_of_nodup {α : Type} (name : α → String) (l : List α) {r : Registry}
    (hfree : ∀ a ∈ l, name a ∉ r.names) (hnodup : (l.map name).Nodup) :
    l.foldl (fun r a => r.claim (name a)) r = ⟨r.names ++ l.map name⟩ := by
  induction l generalizing r with
  | nil => simp
  | cons a rest ih =>
    rw [List.map_cons, List.nodup_cons] at hnodup
    rw [List.foldl_cons, claim_of_notMem (hfree a List.mem_cons_self), ih _ hnodup.2,
      List.map_cons, List.append_assoc, List.singleton_append]
    intro b hb hmem
    rcases List.mem_append.mp hmem with hmem | hmem
    · exact hfree b (List.mem_cons_of_mem _ hb) hmem
    · rw [List.mem_singleton] at hmem
      exact hnodup.1 (hmem ▸ List.mem_map_of_mem hb)

namespace DerivedUnion

/-- All variants are kept when their names differ and are free. -/
theorem freeVariants_eq_self {taken : List String} {vs : List Variant}
    (hfree : ∀ v ∈ vs, v.name ∉ taken) (hnodup : (vs.map (·.name)).Nodup) :
    freeVariants taken vs = vs := by
  induction vs generalizing taken with
  | nil => rfl
  | cons v rest ih =>
    rw [List.map_cons, List.nodup_cons] at hnodup
    have hv : ¬ taken.contains v.name = true := by simpa using hfree v List.mem_cons_self
    rw [freeVariants, if_neg hv, ih _ hnodup.2]
    intro w hw hmem
    rcases List.mem_cons.mp hmem with heq | hmem
    · exact hnodup.1 (heq ▸ List.mem_map_of_mem hw)
    · exact hfree w (List.mem_cons_of_mem _ hw) hmem

end DerivedUnion

theorem bind_congr_of_ok {ε α β : Type} {e : Except ε α} {f g : α → Except ε β}
    (h : ∀ a, e = .ok a → f a = g a) : e >>= f = e >>= g := by
  cases e with
  | error p => rfl
  | ok a => exact h a rfl

namespace Resolving

theorem outcome_unionName_bind_congr {β : Type} {owner : String} {f g : String → Resolving β}
    (h : f (Name.unionName owner) = g (Name.unionName owner)) :
    (Resolving.unionName owner >>= f).outcome = (Resolving.unionName owner >>= g).outcome := by
  obtain ⟨_, hname⟩ := Gives.unionName owner {} nofun
  rw [outcome_eq, outcome_eq, after_bind, after_bind]
  rcases hr : (Resolving.unionName owner).after {} with ⟨_ | name, t⟩
  · rfl
  · rw [hr] at hname
    obtain ⟨_, _, rfl, _⟩ := hname name rfl
    dsimp only
    rw [h]

/-- What a union is derived to depends on the names that are taken in its own name only. -/
theorem outcome_derive_of_free {registry : Registry} {g : UnionGroup}
    (hfree : Name.unionName g.owner ∉ registry.names) (namespaceName : String) :
    (DerivedUnion.derive registry g namespaceName).outcome =
      (DerivedUnion.derive {} g namespaceName).outcome := by
  rw [DerivedUnion.derive, DerivedUnion.derive]
  apply outcome_unionName_bind_congr
  have htaken : ¬ registry.contains (Name.unionName g.owner) = true := by
    rwa [Registry.contains_iff]
  rw [if_neg htaken, if_neg (by simp [Registry.contains])]

end Resolving

theorem names_of_variantOf {g : UnionGroup} {baseName : String} {names : List String}
    {vs : List Variant} (h : List.Forall₂ (VariantOf g.owner baseName names) g.variants vs) :
    vs.map (·.name) = g.variantNames := by
  rw [UnionGroup.variantNames]
  generalize g.variants = alternatives at h
  induction h with
  | nil => rfl
  | cons hv _ ih => rw [List.map_cons, List.map_cons, ih, hv.1]

namespace ModelRun

variable {config : Config} {namespaceName : String} {run : ModelRun}

/-- What is derived of a union whose name is free. -/
structure DerivedFrom (namespaceName : String) (g : UnionGroup) (u : DerivedUnion) : Prop where
  unobstructed : g.obstacle? = none
  form : ∃ vs : List Variant, u = .ofVariants (Name.unionName g.owner) namespaceName vs ∧
    vs.map (·.name) = g.variantNames

theorem derivedFrom_of_outcome {g : UnionGroup} {u : DerivedUnion} {found : Discovered}
    (h : (DerivedUnion.derive {} g namespaceName).outcome = .ok (some u, found)) :
    DerivedFrom namespaceName g u where
  unobstructed := by
    have hproblem := Resolving.problemOf_outcome_derive {} g namespaceName
    rw [h, if_neg (by simp [Registry.contains])] at hproblem
    exact hproblem.symm
  form := by
    obtain ⟨_, vs, hu, hvs⟩ := (Resolving.gives_derive {} g namespaceName).of_outcome h u rfl
    exact ⟨vs, hu, names_of_variantOf hvs⟩

theorem keys_unionUnits (name : String) (vs : List Variant) :
    Entries.keys (unionUnits namespaceName (.ofVariants name namespaceName vs)) =
      name :: (vs.map (·.name) ++ [Name.codecName name]) := by
  simp [unionUnits, Entries.keys, DerivedUnion.ofVariants]

/-- A union has a unit for each of its names. -/
theorem DerivedFrom.names {g : UnionGroup} {u : DerivedUnion}
    (h : DerivedFrom namespaceName g u) :
    (Task.union g).names = Entries.keys (unionUnits namespaceName u) := by
  obtain ⟨vs, rfl, hvs⟩ := h.form
  rw [Task.names, h.unobstructed, ← hvs, keys_unionUnits]
  rfl

/-- No variant is left out of a union whose names differ and are free. -/
theorem DerivedFrom.restrict_eq_self {g : UnionGroup} {u : DerivedUnion} {registry : Registry}
    (h : DerivedFrom namespaceName g u)
    (hfree : ∀ n ∈ (Task.union g).names, n ∉ registry.names)
    (hnodup : (Task.union g).names.Nodup) : u.restrict registry = u := by
  rw [h.names] at hfree hnodup
  obtain ⟨vs, rfl, _⟩ := h.form
  rw [keys_unionUnits] at hfree hnodup
  have hself : DerivedUnion.freeVariants registry.names vs = vs := by
    refine DerivedUnion.freeVariants_eq_self (fun v hv => hfree _ ?_) ?_
    · exact List.mem_cons_of_mem _ (List.mem_append_left _ (List.mem_map_of_mem hv))
    · exact (List.nodup_cons.mp hnodup).2.sublist (List.sublist_append_left _ _)
  show DerivedUnion.ofVariants _ _ (DerivedUnion.freeVariants registry.names vs) = _
  rw [hself]
  rfl

/-- A union whose names are all free is made as in a new run. -/
theorem makeUnion_of_free {registry : Registry} {g : UnionGroup}
    (hfree : ∀ n ∈ (Task.union g).names, n ∉ registry.names)
    (hnodup : (Task.union g).names.Nodup) :
    makeUnion config namespaceName registry g = makeUnion config namespaceName {} g := by
  have hname : Name.unionName g.owner ∉ registry.names := hfree _ List.mem_cons_self
  rw [makeUnion, makeUnion, Resolving.outcome_derive_of_free hname]
  refine bind_congr_of_ok ?_
  rintro ⟨_ | u, found⟩ ho
  · rfl
  · have hderived := derivedFrom_of_outcome ho
    have hsame : u.restrict registry = u.restrict {} := by
      have hempty : u.restrict {} = u :=
        hderived.restrict_eq_self (fun _ _ => List.not_mem_nil) hnodup
      rw [hderived.restrict_eq_self hfree hnodup, hempty]
    dsimp only
    rw [hsame]

/-! What a run gains. -/

theorem append_start (run : ModelRun) : run ++ {} = run := by
  show run.append _ = run
  simp [append]

theorem note_eq_append (run : ModelRun) (p : Problem) :
    run.note p = run ++ ({} : ModelRun).note p := by
  show _ = run.append _
  simp [append, note]

theorem registry_claim_of_apart {name : String} (h : run.Apart [name]) :
    run.registry.claim name = ⟨run.registry.names ++ [name]⟩ :=
  Registry.claim_of_notMem (h.registry name (List.mem_singleton.mpr rfl))

theorem addNamed_of_apart {name code : String} {notes : Option String} {type : ModelType}
    {found : Discovered} (h : run.Apart [name]) :
    (run.claim name).addNamed name notes type code found =
      run ++ (({} : ModelRun).claim name).addNamed name notes type code found := by
  have hmem : name ∈ [name] := List.mem_singleton.mpr rfl
  have hregistry := registry_claim_of_apart h
  have hfirst := registry_claim_of_apart (apart_start [name])
  have hunits := @Entries.put_of_notMem _ name code _ (h.units name hmem)
  show _ = run.append _
  cases notes with
  | none => simp [append, addNamed, commit, claim, hregistry, hfirst, hunits]
  | some text =>
    have hnotes := @Entries.put_of_notMem _ name text _ (h.notes name hmem)
    simp [append, addNamed, commit, claim, hregistry, hfirst, hunits, hnotes]

theorem registry_addUnion_of_apart {g : UnionGroup} {u : DerivedUnion}
    (h : run.Apart (Task.union g).names) (hnodup : (Task.union g).names.Nodup)
    (hu : DerivedFrom namespaceName g u) :
    u.variants.foldl (fun r v => r.claim v.name) (run.registry.claim u.marker.name) =
      ⟨run.registry.names ++ u.marker.name :: u.variants.map (·.name)⟩ := by
  rw [hu.names] at h hnodup
  obtain ⟨vs, rfl, _⟩ := hu.form
  rw [keys_unionUnits] at h hnodup
  obtain ⟨hmarker, hrest⟩ := List.nodup_cons.mp hnodup
  have hnew : ∀ v ∈ vs, v.name ∉ run.registry.names ++ [Name.unionName g.owner] := by
    intro v hv hmem
    have hvariant : v.name ∈ vs.map (·.name) ++ [Name.codecName (Name.unionName g.owner)] :=
      List.mem_append_left _ (List.mem_map_of_mem hv)
    rcases List.mem_append.mp hmem with hmem | hmem
    · exact h.registry _ (List.mem_cons_of_mem _ hvariant) hmem
    · rw [List.mem_singleton.mp hmem] at hvariant
      exact hmarker hvariant
  show vs.foldl _ (run.registry.claim (Name.unionName g.owner)) = _
  rw [Registry.claim_of_notMem (h.registry _ List.mem_cons_self),
    Registry.foldl_claim_of_nodup (·.name) vs hnew (hrest.sublist (List.sublist_append_left _ _)),
    List.append_assoc, List.singleton_append]
  rfl

theorem addUnion_of_apart {g : UnionGroup} {u : DerivedUnion} {found : Discovered}
    (h : run.Apart (Task.union g).names) (hnodup : (Task.union g).names.Nodup)
    (hu : DerivedFrom namespaceName g u) :
    addUnion namespaceName run u found = run ++ addUnion namespaceName {} u found := by
  have hregistry := registry_addUnion_of_apart h hnodup hu
  have hfirst := registry_addUnion_of_apart (apart_start _) hnodup hu
  rw [hu.names] at h hnodup
  have hunits := Entries.putAll_of_notMem hnodup h.units
  have hput := Entries.putAll_of_notMem hnodup (apart_start _).units
  show _ = run.append _
  simp [append, addUnion, commit, hregistry, hfirst, hunits, hput]

theorem generateNamed_of_apart {c : Candidate} (h : run.Apart [c.name]) :
    generateNamed config namespaceName run c.key c.declared c.body =
      run ++ generateNamed config namespaceName {} c.key c.declared c.body := by
  have hfree : run.registry.contains c.name = false :=
    Registry.contains_eq_false_iff.mpr (h.registry _ (List.mem_singleton.mpr rfl))
  have hnew : ({} : ModelRun).registry.contains (Name.className c.key) = false := rfl
  rcases hmake : makeNamed config namespaceName c.name c.body
    (notesFor config c.key c.declared) with p | ⟨type, code, found⟩
  · rw [generateNamed_of_error hfree hmake, generateNamed_of_error hnew hmake]
    exact note_eq_append run p
  · rw [generateNamed_of_ok hfree hmake, generateNamed_of_ok hnew hmake]
    exact addNamed_of_apart h

theorem derivedFrom_of_makeUnion {g : UnionGroup} {u : DerivedUnion} {found : Discovered}
    (hnodup : (Task.union g).names.Nodup)
    (h : makeUnion config namespaceName {} g = .ok (some (u, found))) :
    DerivedFrom namespaceName g u := by
  obtain ⟨⟨derived?, found'⟩, ho, h⟩ := bind_eq_ok h
  cases derived? with
  | none => cases h
  | some derived =>
    obtain ⟨_, _, h⟩ := bind_eq_ok h
    cases h
    have hderived := derivedFrom_of_outcome ho
    rwa [hderived.restrict_eq_self (fun _ _ => List.not_mem_nil) hnodup]

theorem generateUnion_of_apart {g : UnionGroup} (h : run.Apart (Task.union g).names)
    (hnodup : (Task.union g).names.Nodup) :
    generateUnion config namespaceName run g =
      run ++ generateUnion config namespaceName {} g := by
  have hsame : makeUnion config namespaceName run.registry g =
      makeUnion config namespaceName {} g := makeUnion_of_free h.registry hnodup
  rw [generateUnion, generateUnion, hsame]
  rcases hmake : makeUnion config namespaceName {} g with p | (_ | ⟨u, found⟩)
  · exact note_eq_append run p
  · exact (append_start run).symm
  · exact addUnion_of_apart h hnodup (derivedFrom_of_makeUnion hnodup hmake)

/-- Where none of its names is taken, a piece of work adds to a run what it leads to in a new
one. -/
theorem perform_of_apart {t : Task} (h : run.Apart t.names) (hnodup : t.names.Nodup) :
    t.perform config namespaceName run = run ++ t.alone config namespaceName := by
  cases t with
  | named c => exact generateNamed_of_apart h
  | union g => exact generateUnion_of_apart h hnodup

/-! The names in what a piece of work leads to. -/

/-- Everything in a run has its name from a list, where no name serves twice. -/
structure Within (run : ModelRun) (names : List String) : Prop where
  registry : run.registry.names.Sublist names
  notes : run.notes.keys.Sublist names
  units : run.units.keys.Sublist names
  types : run.typeNames.Sublist names

theorem within_note (p : Problem) (names : List String) : (({} : ModelRun).note p).Within names :=
  ⟨List.nil_sublist _, List.nil_sublist _, List.nil_sublist _, List.nil_sublist _⟩

theorem within_addNamed {c : Candidate} {notes : Option String} {type : ModelType} {code : String}
    {found : Discovered}
    (hmake : makeNamed config namespaceName c.name c.body notes = .ok (type, code, found)) :
    ((({} : ModelRun).claim c.name).addNamed c.name notes type code found).Within [c.name] where
  registry := by
    show (({} : Registry).claim c.name).names.Sublist [c.name]
    rw [Registry.claim_of_notMem List.not_mem_nil]
    exact .refl _
  notes := by
    cases notes with
    | none => exact List.nil_sublist _
    | some text => exact .refl _
  units := .refl _
  types := by
    rw [typeNames_addNamed _ hmake]
    exact .refl _

theorem within_addUnion {g : UnionGroup} {u : DerivedUnion} {found : Discovered}
    (hnodup : (Task.union g).names.Nodup) (hu : DerivedFrom namespaceName g u) :
    (addUnion namespaceName {} u found).Within (Task.union g).names := by
  have hregistry := registry_addUnion_of_apart (apart_start _) hnodup hu
  rw [hu.names] at hnodup ⊢
  have hunits := Entries.putAll_of_notMem hnodup (apart_start _).units
  have hmade : (u.marker.name :: u.variants.map (·.name)).Sublist
      (Entries.keys (unionUnits namespaceName u)) := by
    obtain ⟨vs, rfl, _⟩ := hu.form
    rw [keys_unionUnits]
    exact (List.sublist_append_left _ _).cons_cons _
  constructor
  case registry =>
    have hnames : (addUnion namespaceName {} u found).registry.names =
        u.marker.name :: u.variants.map (·.name) := congrArg Registry.names hregistry
    rw [hnames]
    exact hmade
  case notes => exact List.nil_sublist _
  case units =>
    have hput : (addUnion namespaceName {} u found).units = unionUnits namespaceName u := hunits
    rw [hput]
  case types =>
    rw [typeNames_addUnion]
    exact hmade

/-- A piece of work names nothing but with its names. -/
theorem within_alone {t : Task} (hnodup : t.names.Nodup) :
    (t.alone config namespaceName).Within t.names := by
  cases t with
  | named c =>
    show (generateNamed config namespaceName {} c.key c.declared c.body).Within [c.name]
    have hnew : ({} : ModelRun).registry.contains (Name.className c.key) = false := rfl
    rcases hmake : makeNamed config namespaceName c.name c.body
      (notesFor config c.key c.declared) with p | ⟨type, code, found⟩
    · rw [generateNamed_of_error hnew hmake]
      exact within_note p _
    · rw [generateNamed_of_ok hnew hmake]
      exact within_addNamed hmake
  | union g =>
    show (generateUnion config namespaceName {} g).Within _
    have hmakes : makeUnion config namespaceName ({} : ModelRun).registry g =
        makeUnion config namespaceName {} g := rfl
    rw [generateUnion, hmakes]
    rcases hmake : makeUnion config namespaceName {} g with p | (_ | ⟨u, found⟩)
    · exact within_note p _
    · exact ⟨List.nil_sublist _, List.nil_sublist _, List.nil_sublist _, List.nil_sublist _⟩
    · exact within_addUnion hnodup (derivedFrom_of_makeUnion hnodup hmake)

end ModelRun

end ApiForge
