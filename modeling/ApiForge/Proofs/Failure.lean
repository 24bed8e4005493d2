import ApiForge.Proofs.History

/-!
Schemas and unions that no type is made of. What stands in the way can be read off the schema: the
first scalar without a mapping, under any number of lists, or the first alternative without a
title; only whether a unit is well-formed is seen from the unit itself. Main statement: whatever
stands in the way, the run is left as it was, with that one problem noted, and nothing else ever
notes a problem (`failures_leave_no_trace`).
-/

namespace ApiForge

def problemOf {α : Type} : Except Problem α → Option Problem
  | .ok _ => none
  | .error p => some p

theorem problemOf_eq_some_iff {α : Type} {r : Except Problem α} {p : Problem} :
    problemOf r = some p ↔ r = .error p := by
  cases r with
  | ok a => simp [problemOf]
  | error q => simp [problemOf]

theorem findSome?_cons_eq_or {α β : Type} (f : α → Option β) (a : α) (l : List α) :
    (a :: l).findSome? f = (f a).or (l.findSome? f) := by
  rw [List.findSome?_cons]
  cases f a <;> rfl

theorem bind_eq_error_iff {ε α β : Type} {m : Except ε α} {f : α → Except ε β} {e : ε} :
    m >>= f = .error e ↔ m = .error e ∨ ∃ a, m = .ok a ∧ f a = .error e := by
  cases m with
  | error q => simp [bind, Except.bind]
  | ok a => simp [bind, Except.bind]

namespace Schema

/-- What stands in the way of a property: a scalar without a mapping, under any number of lists.
An object, an enumeration or a union inside gets a type of its own later and does not count. -/
def obstacle? (key : String) : Schema → Option Problem
  | .node _ (.primitive kind format) => problemOf (Primitive.ofKind kind format key)
  | .node _ (.array (some items)) => items.obstacle? key
  | _ => none

/-- What stands in the way of the first property that has anything in its way. -/
def firstObstacle? (properties : List (String × Schema)) : Option Problem :=
  properties.findSome? fun p => p.2.obstacle? p.1

/-- What stands in the way of an alternative of a union: it has no title, or a property does not
come about. -/
def variantObstacle? (owner : String) (index : Nat) (s : Schema) : Option Problem :=
  if s.notes.title.getD "" = "" then some (.missingVariantTitle owner index)
  else firstObstacle? s.properties

end Schema

/-- What stands in the way of the first alternative that has anything in its way. -/
def UnionGroup.obstacle? (g : UnionGroup) : Option Problem :=
  g.variants.zipIdx.findSome? fun p => p.1.variantObstacle? g.owner p.2

namespace Resolving

variable {α β : Type}

/-- From wherever it starts, a resolution ends in a problem, or in a result if there is none. -/
def Ends (m : Resolving α) (p? : Option Problem) : Prop := ∀ s, problemOf (m.after s).1 = p?

namespace Ends

theorem pure (a : α) : Ends (Pure.pure a) none := fun _ => rfl

theorem className (key : String) : Ends (Resolving.className key) none := fun _ => rfl

theorem enqueue (key : String) (schema : Schema) : Ends (Resolving.enqueue key schema) none :=
  fun _ => rfl

theorem lift (e : Except Problem α) : Ends (Resolving.lift e) (problemOf e) := fun _ => rfl

theorem bind {m : Resolving α} {f : α → Resolving β} {p? q? : Option Problem} (hm : Ends m p?)
    (hf : ∀ a, Ends (f a) q?) : Ends (m >>= f) (p?.or q?) := by
  intro s
  have hfirst := hm s
  rw [after_bind]
  rcases hr : m.after s with ⟨_ | a, t⟩
  · rw [hr] at hfirst
    rw [← hfirst]
    rfl
  · rw [hr] at hfirst
    rw [← hfirst]
    exact hf a t

/-- What can only come to a result leaves the end to what follows. -/
theorem bind_right {m : Resolving α} {f : α → Resolving β} {p? : Option Problem}
    (hm : Ends m none) (hf : ∀ a, Ends (f a) p?) : Ends (m >>= f) p? := by
  simpa using bind hm hf

/-- What follows leaves the end alone if it can only come to a result. -/
theorem bind_left {m : Resolving α} {f : α → Resolving β} {p? : Option Problem}
    (hm : Ends m p?) (hf : ∀ a, Ends (f a) none) : Ends (m >>= f) p? := by
  simpa using bind hm hf

theorem unionName (owner : String) : Ends (Resolving.unionName owner) none :=
  bind_left (className owner) fun _ => pure _

theorem enqueueUnion (owner : String) (variants : List Schema) :
    Ends (Resolving.enqueueUnion owner variants) none := by
  have hqueue : Ends (modify fun s => { s with
      found := s.found ++ { unions := [⟨owner, variants⟩] } } : Resolving PUnit) none :=
    fun _ => rfl
  exact bind_left hqueue fun _ => unionName owner

theorem outcome {m : Resolving α} {p? : Option Problem} (h : Ends m p?) :
    problemOf m.outcome = p? := by
  have hend := h {}
  rw [outcome_eq]
  rcases hr : m.after {} with ⟨_ | a, t⟩
  · rw [hr] at hend
    exact hend
  · rw [hr] at hend
    exact hend

end Ends

theorem ends_resolution (key : String) : ∀ s : Schema,
    Ends (property key s) (s.obstacle? key) ∧ Ends (itemsOf key s) (s.obstacle? key) := by
  apply schema_induction
  case reference =>
    intro notes target
    rw [property, propertyOfShape]
    exact (Ends.className target).bind_left fun _ => Ends.pure _
  case enumeration =>
    intro notes values
    rw [property, propertyOfShape]
    exact (Ends.className key).bind_right fun _ =>
      (Ends.enqueue key _).bind_left fun _ => Ends.pure _
  case oneOf =>
    intro notes variants
    rw [property, propertyOfShape]
    exact (Ends.enqueueUnion key variants).bind_left fun _ => Ends.pure _
  case list =>
    intro notes
    rw [property, propertyOfShape]
    exact Ends.pure _
  case listOf =>
    intro notes items hitems
    rw [property, propertyOfShape, Schema.obstacle?]
    exact hitems.bind_left fun _ => Ends.pure _
  case object =>
    intro notes properties required
    rw [property, propertyOfShape]
    split
    · exact Ends.pure _
    · exact (Ends.className key).bind_right fun _ =>
        (Ends.enqueue key _).bind_left fun _ => Ends.pure _
  case untyped =>
    intro notes
    rw [property, propertyOfShape]
    exact Ends.pure _
  case primitive =>
    intro notes kind format
    rw [property, propertyOfShape, Schema.obstacle?]
    exact (Ends.lift _).bind_left fun _ => Ends.pure _
  case objectItem =>
    intro notes properties required
    rw [itemsOf]
    split
    · exact Ends.pure _
    · exact (Ends.className key).bind_right fun _ =>
        (Ends.enqueue _ _).bind_left fun _ => Ends.pure _
  case item =>
    intro notes shape hshape h
    rwa [itemsOf_eq_property hshape]

theorem ends_property (key : String) (s : Schema) : Ends (property key s) (s.obstacle? key) :=
  (ends_resolution key s).1

theorem ends_fieldsFrom (owner : String) (required used : List String)
    (properties : List (String × Schema)) :
    Ends (fieldsFrom owner required used properties) (Schema.firstObstacle? properties) := by
  induction properties generalizing used with
  | nil => exact Ends.pure _
  | cons p rest ih =>
    obtain ⟨wire, schema⟩ := p
    rw [fieldsFrom, Schema.firstObstacle?, findSome?_cons_eq_or]
    exact (ends_property wire schema).bind fun _ => (ih _).bind_left fun _ => Ends.pure _

theorem ends_fields (owner : String) (schema : Schema) :
    Ends (fields owner schema) (Schema.firstObstacle? schema.properties) := by
  rw [fields, Schema.properties]
  cases schema.shape with
  | object properties required => exact ends_fieldsFrom owner required [] properties
  | _ => exact Ends.pure _

theorem ends_record (name : String) (schema : Schema) (namespaceName : String) :
    Ends (record name schema namespaceName) (Schema.firstObstacle? schema.properties) :=
  (ends_fields name schema).bind_left fun _ => Ends.pure _

theorem problemOf_titleOf (owner : String) (index : Nat) (s : Schema) :
    problemOf (DerivedUnion.titleOf owner index s) =
      if s.notes.title.getD "" = "" then some (.missingVariantTitle owner index) else none := by
  rw [DerivedUnion.titleOf]
  cases s.notes.title with
  | none => rfl
  | some title =>
    dsimp only [Option.getD_some]
    by_cases h : title = "" <;> simp [h, problemOf]

theorem ends_variantsFrom (owner baseName namespaceName : String) (index : Nat)
    (alternatives : List Schema) :
    Ends (DerivedUnion.variantsFrom owner baseName namespaceName index alternatives)
      ((alternatives.zipIdx index).findSome? fun p => p.1.variantObstacle? owner p.2) := by
  induction alternatives generalizing index with
  | nil => exact Ends.pure _
  | cons s rest ih =>
    -- The title is asked for first, then the properties, then the other alternatives.
    have hfirst : s.variantObstacle? owner index =
        (problemOf (DerivedUnion.titleOf owner index s)).or
          (Schema.firstObstacle? s.properties) := by
      rw [Schema.variantObstacle?, problemOf_titleOf]
      split <;> rfl
    rw [DerivedUnion.variantsFrom, List.zipIdx_cons, findSome?_cons_eq_or]
    dsimp only
    rw [hfirst, Option.or_assoc]
    exact (Ends.lift _).bind fun _ => (ends_fields _ s).bind fun _ =>
      (ih (index + 1)).bind_left fun _ => Ends.pure _

theorem outcome_unionName_bind {owner : String} {f : String → Resolving β} {p? : Option Problem}
    (h : Ends (f (Name.unionName owner)) p?) :
    problemOf (Resolving.unionName owner >>= f).outcome = p? := by
  have hends := Ends.unionName owner {}
  obtain ⟨_, hname⟩ := Gives.unionName owner {} nofun
  rw [outcome_eq, after_bind]
  rcases hr : (Resolving.unionName owner).after {} with ⟨_ | name, t⟩
  · rw [hr] at hends
    cases hends
  · rw [hr] at hname
    obtain ⟨_, _, rfl, _⟩ := hname name rfl
    have hend := h t
    dsimp only
    rcases hf : (f (Name.unionName owner)).after t with ⟨_ | b, u⟩
    · rw [hf] at hend
      exact hend
    · rw [hf] at hend
      exact hend

/-- A union whose name is taken is left out before anything is asked of its alternatives. -/
theorem problemOf_outcome_derive (registry : Registry) (group : UnionGroup)
    (namespaceName : String) :
    problemOf (DerivedUnion.derive registry group namespaceName).outcome =
      if registry.contains (Name.unionName group.owner) then none else group.obstacle? := by
  rw [DerivedUnion.derive]
  apply outcome_unionName_bind
  split
  · exact Ends.pure _
  · exact (ends_variantsFrom group.owner _ namespaceName 0 group.variants).bind_left
      fun _ => Ends.pure _

end Resolving

namespace Config

/-- A unit that is checked and is not well-formed code. -/
def Rejects (config : Config) (code : String) : Prop :=
  config.verifySyntax = true ∧ config.accepts code = false

theorem verify_eq_error_iff {config : Config} {code : String} {p : Problem} :
    config.verify code = .error p ↔ config.Rejects code ∧ p = .unparsableUnit := by
  rw [verify, Rejects]
  cases config.verifySyntax <;> cases config.accepts code <;> simp [eq_comm]

theorem forM_verify_eq_error_iff {config : Config} {units : List (String × String)}
    {p : Problem} :
    (units.forM fun (_, code) => config.verify code) = .error p ↔
      (∃ unit ∈ units, config.Rejects unit.2) ∧ p = .unparsableUnit := by
  induction units with
  | nil => exact iff_of_false nofun fun h => by simp at h
  | cons unit rest ih =>
    change (config.verify unit.2 >>= fun _ => rest.forM fun (_, code) => config.verify code) = _ ↔ _
    rw [bind_eq_error_iff, verify_eq_error_iff]
    constructor
    · rintro (⟨hrejects, hp⟩ | ⟨_, _, h⟩)
      · exact ⟨⟨unit, List.mem_cons_self, hrejects⟩, hp⟩
      · obtain ⟨⟨other, hmem, hrejects⟩, hp⟩ := ih.mp h
        exact ⟨⟨other, List.mem_cons_of_mem _ hmem, hrejects⟩, hp⟩
    · rintro ⟨⟨other, hmem, hrejects⟩, hp⟩
      rcases hverify : config.verify unit.2 with q | _
      · obtain ⟨hunit, _⟩ := verify_eq_error_iff.mp hverify
        exact .inl ⟨hunit, hp⟩
      · rcases List.mem_cons.mp hmem with rfl | hmem
        · exact .inl ⟨hrejects, hp⟩
        · exact .inr ⟨_, rfl, ih.mpr ⟨⟨other, hmem, hrejects⟩, hp⟩⟩

end Config

namespace ModelRun

variable {config : Config} {namespaceName : String}

/-- Why no type is made of a schema: something stands in the way of a property, or the unit is
rejected. -/
inductive NamedFailure (config : Config) (namespaceName key : String) (declared body : Schema) :
    Problem → Prop where
  | obstacle {p : Problem} (h : Schema.firstObstacle? body.properties = some p) :
      NamedFailure config namespaceName key declared body p
  | unit {type : ModelType} {code : String} {found : Discovered}
      (made : (render namespaceName (Name.className key) body
        (notesFor config key declared)).outcome = .ok ((type, code), found))
      (rejected : config.Rejects code) :
      NamedFailure config namespaceName key declared body .unparsableUnit

/-- Why no types are made of a union whose name is free: something stands in the way of an
alternative, or one of the units is rejected. -/
inductive UnionFailure (config : Config) (namespaceName : String) (registry : Registry)
    (group : UnionGroup) : Problem → Prop where
  | obstacle {p : Problem} (free : registry.contains (Name.unionName group.owner) = false)
      (h : group.obstacle? = some p) : UnionFailure config namespaceName registry group p
  | unit {u : DerivedUnion} {found : Discovered} {unit : String × String}
      (derived : (DerivedUnion.derive registry group namespaceName).outcome = .ok (some u, found))
      (mem : unit ∈ unionUnits namespaceName (u.restrict registry))
      (rejected : config.Rejects unit.2) :
      UnionFailure config namespaceName registry group .unparsableUnit

theorem ends_render (namespaceName name : String) (body : Schema) (notes : Option String) :
    (render namespaceName name body notes).Ends (Schema.firstObstacle? body.properties) := by
  unfold render
  split
  · next hshape =>
    rw [Schema.properties, hshape]
    exact .pure _
  · exact (Resolving.ends_record name body namespaceName).bind_left fun _ => .pure _

theorem makeNamed_eq_error_iff {key : String} {declared body : Schema} {p : Problem} :
    makeNamed config namespaceName (Name.className key) body (notesFor config key declared) =
        .error p ↔
      NamedFailure config namespaceName key declared body p := by
  have hends := (ends_render namespaceName (Name.className key) body
    (notesFor config key declared)).outcome
  rw [makeNamed, bind_eq_error_iff]
  constructor
  · rintro (hout | ⟨⟨⟨type, code⟩, found⟩, hout, h⟩)
    · exact .obstacle (hends.symm.trans (problemOf_eq_some_iff.mpr hout))
    · rcases bind_eq_error_iff.mp h with hverify | ⟨_, _, h⟩
      · obtain ⟨rejected, rfl⟩ := Config.verify_eq_error_iff.mp hverify
        exact .unit hout rejected
      · cases h
  · rintro (h | ⟨made, rejected⟩)
    · exact .inl (problemOf_eq_some_iff.mp (hends.trans h))
    · refine .inr ⟨_, made, bind_eq_error_iff.mpr (.inl ?_)⟩
      exact Config.verify_eq_error_iff.mpr ⟨rejected, rfl⟩

theorem makeUnion_eq_error_iff {registry : Registry} {group : UnionGroup} {p : Problem} :
    makeUnion config namespaceName registry group = .error p ↔
      UnionFailure config namespaceName registry group p := by
  have hends := Resolving.problemOf_outcome_derive registry group namespaceName
  rw [makeUnion, bind_eq_error_iff]
  constructor
  · rintro (hout | ⟨⟨derived, found⟩, hout, h⟩)
    · rw [problemOf_eq_some_iff.mpr hout] at hends
      cases hfree : registry.contains (Name.unionName group.owner) with
      | true =>
        rw [if_pos hfree] at hends
        cases hends
      | false =>
        rw [if_neg (by simp [hfree])] at hends
        exact .obstacle hfree hends.symm
    · cases derived with
      | none => cases h
      | some u =>
        rcases bind_eq_error_iff.mp h with hverify | ⟨_, _, h⟩
        · obtain ⟨⟨unit, hmem, rejected⟩, rfl⟩ := Config.forM_verify_eq_error_iff.mp hverify
          exact .unit hout hmem rejected
        · cases h
  · rintro (⟨hfree, h⟩ | ⟨derived, hmem, rejected⟩)
    · rw [if_neg (by simp [hfree]), h] at hends
      exact .inl (problemOf_eq_some_iff.mp hends)
    · refine .inr ⟨_, derived, bind_eq_error_iff.mpr (.inl ?_)⟩
      exact Config.forM_verify_eq_error_iff.mpr ⟨⟨_, hmem, rejected⟩, rfl⟩

variable {run : ModelRun}

theorem generateNamed_of_failure {key : String} {declared body : Schema} {p : Problem}
    (hfree : run.registry.contains (Name.className key) = false)
    (h : NamedFailure config namespaceName key declared body p) :
    generateNamed config namespaceName run key declared body = run.note p :=
  generateNamed_of_error hfree (makeNamed_eq_error_iff.mpr h)

theorem generateUnion_of_failure {group : UnionGroup} {p : Problem}
    (h : UnionFailure config namespaceName run.registry group p) :
    generateUnion config namespaceName run group = run.note p := by
  rw [generateUnion, makeUnion_eq_error_iff.mpr h]

/-- A schema whose type is made, or whose name is taken, notes nothing. -/
theorem failure_of_issues_generateNamed {key : String} {declared body : Schema}
    (h : (generateNamed config namespaceName run key declared body).issues ≠ run.issues) :
    run.registry.contains (Name.className key) = false ∧
      ∃ p, NamedFailure config namespaceName key declared body p := by
  rcases generateNamed_cases config namespaceName run key declared body with
    ⟨_, heq⟩ | ⟨hfree, ⟨p, hmake, _⟩ | ⟨_, _, _, _, heq⟩⟩
  · rw [heq] at h
    exact absurd rfl h
  · exact ⟨hfree, p, makeNamed_eq_error_iff.mp hmake⟩
  · rw [heq] at h
    exact absurd rfl h

/-- A union whose types are made, or whose name is taken, notes nothing. -/
theorem failure_of_issues_generateUnion {group : UnionGroup}
    (h : (generateUnion config namespaceName run group).issues ≠ run.issues) :
    ∃ p, UnionFailure config namespaceName run.registry group p := by
  rw [generateUnion] at h
  rcases hmake : makeUnion config namespaceName run.registry group with p | (_ | ⟨u, found⟩)
  · exact ⟨p, makeUnion_eq_error_iff.mp hmake⟩
  · rw [hmake] at h
    exact absurd rfl h
  · rw [hmake] at h
    exact absurd rfl h

/-- A schema or union that no type is made of leaves the run as it was, with that one problem noted
after the others; and no other schema or union notes a problem. -/
theorem failures_leave_no_trace (config : Config) (namespaceName : String) (run : ModelRun) :
    (∀ key declared body p, run.registry.contains (Name.className key) = false →
      NamedFailure config namespaceName key declared body p →
      generateNamed config namespaceName run key declared body =
        { run with issues := run.issues ++ [p] }) ∧
    (∀ group p, UnionFailure config namespaceName run.registry group p →
      generateUnion config namespaceName run group =
        { run with issues := run.issues ++ [p] }) ∧
    (∀ key declared body,
      (generateNamed config namespaceName run key declared body).issues ≠ run.issues →
      run.registry.contains (Name.className key) = false ∧
        ∃ p, NamedFailure config namespaceName key declared body p) ∧
    ∀ group, (generateUnion config namespaceName run group).issues ≠ run.issues →
      ∃ p, UnionFailure config namespaceName run.registry group p :=
  ⟨fun _ _ _ _ hfree h => generateNamed_of_failure hfree h,
    fun _ _ h => generateUnion_of_failure h,
    fun _ _ _ h => failure_of_issues_generateNamed h,
    fun _ h => failure_of_issues_generateUnion h⟩

/-! A run with a type, and a schema, a union and a unit that come to nothing after it. -/

def brokenSchema : Schema :=
  .node {} (.object [
    ("nested", .node {} (.object [("a", .node {} (.primitive "string" none))] [])),
    ("mails", .node {} (.array (some (.node {} (.array (some
      (.node {} (.primitive "string" (some "email")))))))))] [])

def untitledGroup : UnionGroup where
  owner := "choice"
  variants := [
    .node { title := some "A" } (.object [("x", .node {} (.primitive "string" none))] []),
    .node {} .untyped]

def nestedRun : ModelRun :=
  generateComponents .unchecked "Demo" {}
    [("Nested", .node {} (.object [("b", .node {} (.primitive "string" none))] []))]

/-- The choices of a run that takes no unit for well-formed. -/
def rejectingConfig : Config where
  accepts := fun _ => false

theorem nestedRun_left_alone :
    nestedRun.registry.names = ["Nested"] ∧
      generateNamed .unchecked "Demo" nestedRun "Broken" brokenSchema brokenSchema =
        { nestedRun with
          issues := nestedRun.issues ++ [.unsupportedFormat "string" "email" "mails"] } ∧
      generateUnion .unchecked "Demo" nestedRun untitledGroup =
        { nestedRun with issues := nestedRun.issues ++ [.missingVariantTitle "choice" 1] } ∧
      generateNamed rejectingConfig "Demo" nestedRun "Tag" (.node {} .untyped)
          (.node {} .untyped) =
        { nestedRun with issues := nestedRun.issues ++ [.unparsableUnit] } := by
  obtain ⟨hnamed, hunion, _⟩ := failures_leave_no_trace .unchecked "Demo" nestedRun
  refine ⟨by decide +kernel, ?_, ?_, ?_⟩
  · exact hnamed _ _ _ _ (by decide +kernel) (.obstacle (by decide +kernel))
  · exact hunion _ _ (.obstacle (by decide +kernel) (by decide +kernel))
  · refine (failures_leave_no_trace rejectingConfig "Demo" nestedRun).1 _ _ _ _
      (by decide +kernel) (.unit rfl ⟨rfl, rfl⟩)

end ModelRun

end ApiForge
