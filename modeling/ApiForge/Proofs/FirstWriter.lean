import ApiForge.Model.Finish
import ApiForge.Proofs.Boxing
import ApiForge.Proofs.Failure
import ApiForge.Proofs.FirstMade

/-!
Schemas of a document that want one name. The schemas of a document are taken up before any work
that they give rise to, so the first of them that a type can be made from has the name, whatever
else the document holds: a run only ever adds types, and none under a name that is taken. A schema
that comes after it leaves the run as it was, and one before it has left its problem there and
nothing else. Main statement: `first_component_wins`.
-/

namespace ApiForge

namespace ModelRun

variable {config : Config} {namespaceName : String} {run : ModelRun}

/-! What a run adds. -/

/-- One run comes from another by adding types, none of them under a name that was taken. -/
structure Extends (run later : ModelRun) : Prop where
  names : ∀ name ∈ run.registry.names, name ∈ later.registry.names
  types : ∃ added, later.types = run.types ++ added ∧
    ∀ t ∈ added, ∀ name ∈ run.registry.names, t.name? ≠ some name

namespace Extends

theorem of_same {later : ModelRun} (hregistry : later.registry = run.registry)
    (htypes : later.types = run.types) : Extends run later where
  names := by
    rw [hregistry]
    exact fun _ h => h
  types := ⟨[], by rw [htypes, List.append_nil], nofun⟩

theorem trans {middle later : ModelRun} (h : Extends run middle) (h' : Extends middle later) :
    Extends run later where
  names name hname := h'.names name (h.names name hname)
  types := by
    obtain ⟨added, hadded, hnew⟩ := h.types
    obtain ⟨more, hmore, hnew'⟩ := h'.types
    refine ⟨added ++ more, by rw [hmore, hadded, List.append_assoc], ?_⟩
    intro t ht name hname
    rcases List.mem_append.mp ht with ht | ht
    · exact hnew t ht name hname
    · exact hnew' t ht name (h.names name hname)

/-- The types of a name that was taken are those that there were. -/
theorem filter_types {later : ModelRun} (h : Extends run later) {name : String}
    (hname : name ∈ run.registry.names) :
    later.types.filter (·.name? == some name) = run.types.filter (·.name? == some name) := by
  obtain ⟨added, hadded, hnew⟩ := h.types
  have hnone : added.filter (·.name? == some name) = [] := by
    rw [List.filter_eq_nil_iff]
    intro t ht heq
    exact hnew t ht name hname (beq_iff_eq.mp heq)
  rw [hadded, List.filter_append, hnone, List.append_nil]

end Extends

theorem extends_generateNamed (run : ModelRun) (key : String) (declared body : Schema) :
    Extends run (generateNamed config namespaceName run key declared body) := by
  rcases generateNamed_cases config namespaceName run key declared body with
    ⟨_, h⟩ | ⟨hfree, ⟨p, _, h⟩ | ⟨type, code, found, hmake, h⟩⟩
  · rw [h]
    exact .of_same rfl rfl
  · rw [h]
    exact .of_same rfl rfl
  · rw [h]
    constructor
    case names => exact fun name hname => Registry.mem_claim.mpr (.inl hname)
    case types =>
      refine ⟨[type], rfl, ?_⟩
      intro t ht name hname heq
      rw [List.mem_singleton.mp ht, (of_makeNamed hmake).name_eq] at heq
      exact Registry.contains_eq_false_iff.mp hfree (Option.some.inj heq ▸ hname)

theorem extends_generateUnion (run : ModelRun) (group : UnionGroup) :
    Extends run (generateUnion config namespaceName run group) := by
  rw [generateUnion]
  rcases hmake : makeUnion config namespaceName run.registry group with p | (_ | ⟨u, found⟩)
  · exact .of_same rfl rfl
  · exact .of_same rfl rfl
  · obtain ⟨hfree, vs, rfl, _⟩ := of_makeUnion hmake
    constructor
    case names =>
      intro name hname
      exact (Registry.mem_foldl_claim _ _).mpr (.inl (Registry.mem_claim.mpr (.inl hname)))
    case types =>
      refine ⟨_, rfl, ?_⟩
      intro t ht name hname heq
      rcases List.mem_cons.mp ht with rfl | ht
      · obtain rfl : Name.unionName group.owner = name := Option.some.inj heq
        exact Registry.contains_eq_false_iff.mp hfree hname
      · obtain ⟨v, hv, rfl⟩ := List.mem_map.mp ht
        exact (freeVariants_names run.registry.names vs).1 v hv (Option.some.inj heq ▸ hname)

theorem extends_perform (run : ModelRun) (item : WorkItem) :
    Extends run (run.perform config namespaceName item) := by
  cases item with
  | schema p => exact extends_generateNamed run p.key p.schema p.schema
  | union g => exact extends_generateUnion run g

theorem extends_settle (afterUnion : Bool) (run : ModelRun) :
    Extends run (settle config namespaceName afterUnion run) := by
  induction afterUnion, run using ModelRun.settle.induct config namespaceName with
  | case1 afterUnion run hnone =>
    rw [ModelRun.settle, hnone]
    exact .of_same rfl rfl
  | case2 afterUnion run item rest hnext ih =>
    rw [ModelRun.settle, hnext]
    have hrest : Extends run rest := by
      rcases next?_cases hnext with ⟨_, _, _, _, rfl⟩ | ⟨_, _, _, _, rfl⟩
      · exact .of_same rfl rfl
      · exact .of_same rfl rfl
    exact hrest.trans ((extends_perform rest item).trans ih)

/-! The schemas of a document, one after the other. -/

theorem generateComponent_of_bodyOf {key : String} {schema body : Schema}
    (hskip : config.isSkipped (Name.className key) = false) (hbody : bodyOf schema = some body) :
    generateComponent config namespaceName run key schema =
      generateNamed config namespaceName run key schema body := by
  rw [generateComponent, hskip, hbody]
  rfl

theorem extends_takeDeclared (run : ModelRun) (schemas : List (String × Schema)) :
    Extends run (takeDeclared config namespaceName run schemas) := by
  induction schemas generalizing run with
  | nil => exact .of_same rfl rfl
  | cons p rest ih =>
    obtain ⟨key, schema⟩ := p
    have hstep : Extends run (generateComponent config namespaceName run key schema) := by
      rw [generateComponent]
      split
      · exact .of_same rfl rfl
      · cases bodyOf schema with
        | none => exact .of_same rfl rfl
        | some body => exact extends_generateNamed run key schema body
    exact hstep.trans (ih _)

theorem takeDeclared_append (run : ModelRun) (front back : List (String × Schema)) :
    takeDeclared config namespaceName run (front ++ back) =
      takeDeclared config namespaceName (takeDeclared config namespaceName run front) back :=
  List.foldl_append

theorem takeDeclared_cons (run : ModelRun) (key : String) (schema : Schema)
    (back : List (String × Schema)) :
    takeDeclared config namespaceName run ((key, schema) :: back) =
      takeDeclared config namespaceName (generateComponent config namespaceName run key schema)
        back := rfl

theorem generateComponents_eq (run : ModelRun) (schemas : Entries Schema) :
    generateComponents config namespaceName run schemas =
      settle config namespaceName false (takeDeclared config namespaceName run schemas) := rfl

/-- A name is taken once a schema of it was made, and only then. -/
theorem mem_registry_generateNamed {key : String} {declared body : Schema} {name : String} :
    name ∈ (generateNamed config namespaceName run key declared body).registry.names ↔
      name ∈ run.registry.names ∨ (name = Name.className key ∧
        (⟨key, declared, body⟩ : Candidate).isMakeable config namespaceName = true) := by
  rw [Candidate.isMakeable, Candidate.name]
  dsimp only
  rcases generateNamed_cases config namespaceName run key declared body with
    ⟨htaken, heq⟩ | ⟨_, ⟨p, hmake, heq⟩ | ⟨type, code, found, hmake, heq⟩⟩
  · rw [heq]
    refine ⟨.inl, ?_⟩
    rintro (h | ⟨rfl, _⟩)
    · exact h
    · exact Registry.contains_iff.mp htaken
  · rw [heq, hmake]
    exact ⟨.inl, fun h => h.elim id fun h => absurd h.2 Bool.false_ne_true⟩
  · rw [heq, hmake]
    show name ∈ (run.registry.claim (Name.className key)).names ↔ _
    rw [Registry.mem_claim]
    exact or_congr_right ⟨fun h => ⟨h, rfl⟩, fun h => h.1⟩

theorem mem_registry_generateComponent {key : String} {schema : Schema} {name : String} :
    name ∈ (generateComponent config namespaceName run key schema).registry.names ↔
      name ∈ run.registry.names ∨
        (Candidate.firstFor config namespaceName (componentCandidates config key schema)
          name).isSome = true := by
  rw [generateComponent, componentCandidates]
  split
  · simp [Candidate.firstFor]
  · cases bodyOf schema with
    | none => simp [Candidate.firstFor]
    | some body =>
      have hlist : (some body).toList.map (fun body => (⟨key, schema, body⟩ : Candidate)) =
          [⟨key, schema, body⟩] := rfl
      dsimp only
      rw [hlist, mem_registry_generateNamed, Candidate.firstFor, List.find?_singleton]
      refine or_congr_right ?_
      rw [Candidate.name, eq_comm (a := name)]
      split
      · next h => simpa using h
      · next h => simpa using h

/-- A name is taken once all schemas of a document have been taken up if a schema of it can be made,
and only then. -/
theorem mem_registry_takeDeclared {schemas : List (String × Schema)} {name : String} :
    name ∈ (takeDeclared config namespaceName run schemas).registry.names ↔
      name ∈ run.registry.names ∨
        (Candidate.firstFor config namespaceName (declaredCandidates config schemas)
          name).isSome = true := by
  induction schemas generalizing run with
  | nil => simp [takeDeclared, declaredCandidates, Candidate.firstFor]
  | cons p rest ih =>
    obtain ⟨key, schema⟩ := p
    have hcandidates : declaredCandidates config ((key, schema) :: rest) =
        componentCandidates config key schema ++ declaredCandidates config rest := rfl
    rw [takeDeclared_cons, ih, mem_registry_generateComponent, hcandidates, Candidate.firstFor,
      Candidate.firstFor, Candidate.firstFor, List.find?_append, Option.isSome_or, Bool.or_eq_true,
      or_assoc]

/-- The first schema of a name that can be made stands somewhere in the document, and none before it
can be made. -/
theorem exists_split_of_firstFor {schemas : List (String × Schema)} {name : String} {c : Candidate}
    (h : Candidate.firstFor config namespaceName (declaredCandidates config schemas) name =
      some c) :
    ∃ front back, schemas = front ++ (c.key, c.declared) :: back ∧
      config.isSkipped c.name = false ∧ bodyOf c.declared = some c.body ∧
      Candidate.firstFor config namespaceName (declaredCandidates config front) name = none := by
  induction schemas with
  | nil => cases h
  | cons p rest ih =>
    obtain ⟨key, schema⟩ := p
    have hcandidates : ∀ more, declaredCandidates config ((key, schema) :: more) =
        componentCandidates config key schema ++ declaredCandidates config more := fun _ => rfl
    rw [hcandidates, Candidate.firstFor, List.find?_append, Option.or_eq_some_iff] at h
    rcases h with h | ⟨hnone, h⟩
    · have hmem := List.mem_of_find?_eq_some h
      rw [componentCandidates] at hmem
      split at hmem
      · cases hmem
      · next hskip =>
        obtain ⟨body, hbody, rfl⟩ := List.mem_map.mp hmem
        exact ⟨[], rest, rfl, Bool.eq_false_iff.mpr hskip, Option.mem_toList.mp hbody, rfl⟩
    · obtain ⟨front, back, hsplit, hskip, hbody, hfront⟩ := ih h
      refine ⟨(key, schema) :: front, back, by rw [hsplit, List.cons_append], hskip, hbody, ?_⟩
      rw [hcandidates, Candidate.firstFor, List.find?_append, hnone, Option.none_or]
      exact hfront

/-! Problems that were noted before change nothing that follows. -/

def notedBefore (run : ModelRun) (problems : List Problem) : ModelRun :=
  { run with issues := problems ++ run.issues }

theorem notedBefore_note (run : ModelRun) (problems : List Problem) (p : Problem) :
    (run.notedBefore problems).note p = (run.note p).notedBefore problems := by
  simp [notedBefore, note]

theorem generateNamed_notedBefore (run : ModelRun) (problems : List Problem) (key : String)
    (declared body : Schema) :
    generateNamed config namespaceName (run.notedBefore problems) key declared body =
      (generateNamed config namespaceName run key declared body).notedBefore problems := by
  have hregistry : (run.notedBefore problems).registry = run.registry := rfl
  cases hfree : run.registry.contains (Name.className key) with
  | true => rw [generateNamed_of_taken hfree, generateNamed_of_taken (by rwa [hregistry])]
  | false =>
    have hfree' : (run.notedBefore problems).registry.contains (Name.className key) = false := hfree
    rcases hmake : makeNamed config namespaceName (Name.className key) body
      (notesFor config key declared) with p | ⟨type, code, found⟩
    · rw [generateNamed_of_error hfree hmake, generateNamed_of_error hfree' hmake, notedBefore_note]
    · rw [generateNamed_of_ok hfree hmake, generateNamed_of_ok hfree' hmake]
      rfl

theorem generateUnion_notedBefore (run : ModelRun) (problems : List Problem) (group : UnionGroup) :
    generateUnion config namespaceName (run.notedBefore problems) group =
      (generateUnion config namespaceName run group).notedBefore problems := by
  have hregistry : (run.notedBefore problems).registry = run.registry := rfl
  rw [generateUnion, generateUnion, hregistry]
  rcases makeUnion config namespaceName run.registry group with p | (_ | ⟨u, found⟩)
  · exact notedBefore_note run problems p
  · rfl
  · rfl

theorem perform_notedBefore (run : ModelRun) (problems : List Problem) (item : WorkItem) :
    (run.notedBefore problems).perform config namespaceName item =
      (run.perform config namespaceName item).notedBefore problems := by
  cases item with
  | schema p => exact generateNamed_notedBefore run problems p.key p.schema p.schema
  | union g => exact generateUnion_notedBefore run problems g

theorem next?_notedBefore (run : ModelRun) (problems : List Problem) (afterUnion : Bool) :
    (run.notedBefore problems).next? afterUnion =
      (run.next? afterUnion).map (Prod.map id (·.notedBefore problems)) := by
  have hpending : (run.notedBefore problems).pending = run.pending := rfl
  have hunions : (run.notedBefore problems).unions = run.unions := rfl
  have hschema : (run.notedBefore problems).nextSchema? =
      run.nextSchema?.map (Prod.map id (·.notedBefore problems)) := by
    rw [nextSchema?, nextSchema?, hpending]
    cases run.pending <;> rfl
  have hunion : (run.notedBefore problems).nextUnion? =
      run.nextUnion?.map (Prod.map id (·.notedBefore problems)) := by
    rw [nextUnion?, nextUnion?, hunions]
    cases run.unions <;> rfl
  rw [next?, next?, hschema, hunion, ← Option.map_or, ← Option.map_or]
  split <;> rfl

theorem settle_notedBefore (problems : List Problem) (afterUnion : Bool) (run : ModelRun) :
    settle config namespaceName afterUnion (run.notedBefore problems) =
      (settle config namespaceName afterUnion run).notedBefore problems := by
  induction afterUnion, run using ModelRun.settle.induct config namespaceName with
  | case1 afterUnion run hnone =>
    rw [settle, settle, next?_notedBefore, hnone]
    rfl
  | case2 afterUnion run item rest hnext ih =>
    rw [settle, settle, next?_notedBefore, hnext]
    dsimp only [Option.map_some, Prod.map_apply, id]
    rw [perform_notedBefore, ih]

theorem takeDeclared_notedBefore (run : ModelRun) (problems : List Problem)
    (schemas : List (String × Schema)) :
    takeDeclared config namespaceName (run.notedBefore problems) schemas =
      (takeDeclared config namespaceName run schemas).notedBefore problems := by
  induction schemas generalizing run with
  | nil => rfl
  | cons p rest ih =>
    obtain ⟨key, schema⟩ := p
    have hstep : generateComponent config namespaceName (run.notedBefore problems) key schema =
        (generateComponent config namespaceName run key schema).notedBefore problems := by
      rw [generateComponent, generateComponent]
      split
      · rfl
      · cases bodyOf schema with
        | none => rfl
        | some body => exact generateNamed_notedBefore run problems key schema body
    rw [takeDeclared_cons, takeDeclared_cons, hstep, ih]

/-- A problem that is noted between the schemas of a document is one problem more in the end, and
nothing else. -/
theorem generateComponents_of_note {front : List (String × Schema)} {key : String}
    {schema : Schema} {p : Problem}
    (h : generateComponent config namespaceName (takeDeclared config namespaceName {} front) key
      schema = (takeDeclared config namespaceName {} front).note p)
    (back : List (String × Schema)) :
    ∃ later, (generateComponents config namespaceName {} (front ++ back)).issues =
        (takeDeclared config namespaceName {} front).issues ++ later ∧
      generateComponents config namespaceName {} (front ++ (key, schema) :: back) =
        { generateComponents config namespaceName {} (front ++ back) with
          issues := (takeDeclared config namespaceName {} front).issues ++ p :: later } := by
  rw [generateComponents_eq, generateComponents_eq, takeDeclared_append, takeDeclared_append,
    takeDeclared_cons, h]
  generalize takeDeclared config namespaceName {} front = run
  -- Both runs go on as the one without any problem does.
  let silent : ModelRun := { run with issues := [] }
  have hrest : ∀ problems, settle config namespaceName false
      (takeDeclared config namespaceName (silent.notedBefore problems) back) =
        (settle config namespaceName false
          (takeDeclared config namespaceName silent back)).notedBefore problems := by
    intro problems
    rw [takeDeclared_notedBefore, settle_notedBefore]
  have hplain : silent.notedBefore run.issues = run := by simp [silent, notedBefore]
  have hnoted : silent.notedBefore (run.issues ++ [p]) = run.note p := by
    simp [silent, notedBefore, note]
  rw [← hnoted, hrest]
  refine ⟨(settle config namespaceName false
    (takeDeclared config namespaceName silent back)).issues, ?_, ?_⟩
  · conv_lhs => rw [← hplain, hrest]
    rfl
  · conv_rhs => rw [← hplain, hrest]
    simp [notedBefore, silent]

/-! The schemas of one name. -/

/-- A schema whose name another one of the document has got leaves the run as it was. -/
theorem generateComponent_of_later {front : List (String × Schema)} {key : String}
    (h : Candidate.firstFor config namespaceName (declaredCandidates config front)
      (Name.className key) ≠ none) (schema : Schema) :
    generateComponent config namespaceName (takeDeclared config namespaceName {} front) key schema =
      takeDeclared config namespaceName {} front := by
  have htaken : (takeDeclared config namespaceName {} front).registry.contains
      (Name.className key) = true := by
    rw [Registry.contains_iff, mem_registry_takeDeclared]
    exact .inr (Option.isSome_iff_ne_none.mpr h)
  rw [generateComponent]
  split
  · rfl
  · cases bodyOf schema with
    | none => rfl
    | some body => exact if_pos htaken

/-- A schema that no type can be made from, and none from those of its name before it, leaves its
problem. -/
theorem generateComponent_of_earlier {front : List (String × Schema)} {key : String}
    {schema body : Schema} (hskip : config.isSkipped (Name.className key) = false)
    (hbody : bodyOf schema = some body)
    (h : Candidate.firstFor config namespaceName (declaredCandidates config
      (front ++ [(key, schema)])) (Name.className key) = none) :
    ∃ p, makeNamed config namespaceName (Name.className key) body (notesFor config key schema) =
        .error p ∧
      generateComponent config namespaceName (takeDeclared config namespaceName {} front) key
        schema = (takeDeclared config namespaceName {} front).note p := by
  have hcandidates : declaredCandidates config (front ++ [(key, schema)]) =
      declaredCandidates config front ++ [⟨key, schema, body⟩] := by
    have hcomponent : componentCandidates config key schema = [⟨key, schema, body⟩] := by
      rw [componentCandidates, hskip, hbody]
      rfl
    rw [declaredCandidates, List.flatMap_append, List.flatMap_singleton]
    exact congrArg (_ ++ ·) hcomponent
  rw [hcandidates, Candidate.firstFor, List.find?_append, Option.or_eq_none_iff] at h
  obtain ⟨hfront, hown⟩ := h
  have hfree : (takeDeclared config namespaceName {} front).registry.contains
      (Name.className key) = false := by
    rw [Registry.contains_eq_false_iff, mem_registry_takeDeclared, Candidate.firstFor, hfront]
    simp
  rcases hmake : makeNamed config namespaceName (Name.className key) body
    (notesFor config key schema) with p | made
  · refine ⟨p, rfl, ?_⟩
    rw [generateComponent_of_bodyOf hskip hbody]
    exact generateNamed_of_failure hfree (makeNamed_eq_error_iff.mp hmake)
  · rw [List.find?_eq_none] at hown
    refine absurd ?_ (hown _ List.mem_cons_self)
    simp [Candidate.name, Candidate.isMakeable, hmake, Except.isOk, Except.toBool]

/-- The types of a name that a schema of a document is the first to be made under. -/
theorem types_of_first {front : List (String × Schema)} {c : Candidate} {type : ModelType}
    {code : String} {found : Discovered}
    (hskip : config.isSkipped c.name = false) (hbody : bodyOf c.declared = some c.body)
    (hfront : Candidate.firstFor config namespaceName (declaredCandidates config front) c.name =
      none)
    (hmake : makeNamed config namespaceName c.name c.body (notesFor config c.key c.declared) =
      .ok (type, code, found)) (back : List (String × Schema)) :
    (generateComponents config namespaceName {}
      (front ++ (c.key, c.declared) :: back)).types.filter (·.name? == some c.name) = [type] := by
  have hstart : NamesTaken {} := fun _ => Iff.rfl
  have htaken : (takeDeclared config namespaceName {} front).NamesTaken :=
    @Invariant.takeDeclared config namespaceName _ invariant_namesTaken [] _ hstart front
  have hnew : c.name ∉ (takeDeclared config namespaceName {} front).registry.names := by
    rw [mem_registry_takeDeclared, hfront]
    simp
  rw [generateComponents_eq, takeDeclared_append, takeDeclared_cons,
    generateComponent_of_bodyOf hskip hbody]
  generalize takeDeclared config namespaceName {} front = run at htaken hnew ⊢
  have hmade : generateNamed config namespaceName run c.key c.declared c.body =
      (run.claim c.name).addNamed c.name (notesFor config c.key c.declared) type code found :=
    generateNamed_of_ok (Registry.contains_eq_false_iff.mpr hnew) hmake
  rw [hmade, ((extends_takeDeclared _ back).trans (extends_settle false _)).filter_types
    (Registry.mem_claim.mpr (.inr rfl))]
  -- No type bore the name before.
  have hold : run.types.filter (·.name? == some c.name) = [] := by
    rw [List.filter_eq_nil_iff]
    intro t ht heq
    exact hnew ((htaken _).mpr (List.mem_filterMap.mpr ⟨t, ht, beq_iff_eq.mp heq⟩))
  show (run.types ++ [type]).filter (·.name? == some c.name) = [type]
  rw [List.filter_append, hold, List.nil_append, List.filter_singleton,
    (of_makeNamed hmake).name_eq]
  simp

/-- Where a type can be made from some schema of a document, the type of its name is the one made
from the first such schema, and boxing is all that may change it. A schema of that name that comes
later leaves the run as it was, so that the run is that of the document without it; and what comes
earlier adds the one problem that stands in its way to the run of the document without it. -/
theorem first_component_wins {schemas : Entries Schema} {name : String} {c : Candidate}
    (h : Candidate.firstFor config namespaceName (declaredCandidates config schemas) name =
      some c) :
    (∃ type code found,
      makeNamed config namespaceName name c.body (notesFor config c.key c.declared) =
        .ok (type, code, found) ∧
      (generateComponents config namespaceName {} schemas).types.filter
        (·.name? == some name) = [type] ∧
      ((generateComponents config namespaceName {} schemas).finish config).types.filter
        (·.name? == some name) =
          [type.box (.ofTypes (generateComponents config namespaceName {} schemas).types)]) ∧
    ∀ front key schema body back, schemas = front ++ (key, schema) :: back →
      Name.className key = name → bodyOf schema = some body →
      (Candidate.firstFor config namespaceName (declaredCandidates config front) name ≠ none →
        generateComponent config namespaceName (takeDeclared config namespaceName {} front) key
            schema = takeDeclared config namespaceName {} front ∧
          generateComponents config namespaceName {} schemas =
            generateComponents config namespaceName {} (front ++ back)) ∧
      (Candidate.firstFor config namespaceName
          (declaredCandidates config (front ++ [(key, schema)])) name = none →
        ∃ p later,
          makeNamed config namespaceName name body (notesFor config key schema) = .error p ∧
          (generateComponents config namespaceName {} (front ++ back)).issues =
            (takeDeclared config namespaceName {} front).issues ++ later ∧
          generateComponents config namespaceName {} schemas =
            { generateComponents config namespaceName {} (front ++ back) with
              issues := (takeDeclared config namespaceName {} front).issues ++ p :: later }) := by
  obtain ⟨_, hname, hmakeable⟩ := Candidate.mem_of_firstFor h
  obtain ⟨start, rest, rfl, hskip, hbody, hstart⟩ := exists_split_of_firstFor h
  subst hname
  constructor
  · rcases hmake : makeNamed config namespaceName c.name c.body
      (notesFor config c.key c.declared) with p | ⟨type, code, found⟩
    · rw [Candidate.isMakeable, hmake] at hmakeable
      cases hmakeable
    · have htypes := types_of_first hskip hbody hstart hmake rest
      refine ⟨type, code, found, rfl, htypes, ?_⟩
      show (ModelType.boxAll _).filter _ = _
      rw [ModelType.boxAll, List.filter_map]
      simp only [Function.comp_def, ModelType.name?_box]
      rw [htypes, List.map_singleton]
  · intro front key schema body back hsplit hkey hbodyOf
    rw [hsplit]
    rw [← hkey] at hskip ⊢
    constructor
    · intro hfirst
      have hsame := generateComponent_of_later hfirst schema
      refine ⟨hsame, ?_⟩
      rw [generateComponents_eq, generateComponents_eq, takeDeclared_append, takeDeclared_append,
        takeDeclared_cons, hsame]
    · intro hnone
      obtain ⟨p, hmake, hnote⟩ := generateComponent_of_earlier hskip hbodyOf hnone
      obtain ⟨later, hissues, hrun⟩ := generateComponents_of_note hnote back
      exact ⟨p, later, hmake, hissues, hrun⟩

/-! Four schemas of one name: one that no type can be made from, one that has the name, one inside
of another schema, and one that comes last. -/

def objectOf (property : String) (schema : Schema) : Schema :=
  .node {} (.object [(property, schema)] [])

def petSchemas : Entries Schema := [
  ("my_pet", objectOf "mail" (.node {} (.primitive "string" (some "email")))),
  ("my-pet", objectOf "tail" (.node {} (.primitive "string" none))),
  ("Owner", objectOf "my pet" (objectOf "paws" (.node {} (.primitive "integer" none)))),
  ("MyPet", objectOf "fur" (.node {} (.primitive "string" none)))]

def tailedPet : Candidate where
  key := "my-pet"
  declared := objectOf "tail" (.node {} (.primitive "string" none))
  body := objectOf "tail" (.node {} (.primitive "string" none))

theorem petSchemas_first :
    Candidate.firstFor .unchecked "Demo" (declaredCandidates .unchecked petSchemas) "MyPet" =
        some tailedPet ∧
      (∃ type, type.fields.map (·.wireName) = ["tail"] ∧
        (generateComponents .unchecked "Demo" {} petSchemas).types.filter
          (·.name? == some "MyPet") = [type]) ∧
      generateComponents .unchecked "Demo" {} petSchemas =
        generateComponents .unchecked "Demo" {} petSchemas.dropLast ∧
      generateComponents .unchecked "Demo" {} petSchemas =
        { generateComponents .unchecked "Demo" {} petSchemas.tail with
          issues := [.unsupportedFormat "string" "email" "mail"] } := by
  have hfirst : Candidate.firstFor .unchecked "Demo" (declaredCandidates .unchecked petSchemas)
      "MyPet" = some tailedPet := by
    rfl
  obtain ⟨⟨type, code, found, hmake, htypes, _⟩, hothers⟩ := first_component_wins hfirst
  refine ⟨hfirst, ⟨type, (of_makeNamed hmake).wireNames, htypes⟩, ?_, ?_⟩
  · have hlater := (hothers petSchemas.dropLast "MyPet" _ _ [] rfl (by decide) rfl).1
    rw [List.append_nil] at hlater
    exact (hlater (by decide)).2
  · have hearlier := (hothers [] "my_pet" _ _ petSchemas.tail rfl (by decide) rfl).2
    obtain ⟨p, later, hp, hissues, hrun⟩ := hearlier rfl
    have hnone : (generateComponents .unchecked "Demo" {} petSchemas.tail).issues = [] := by
      decide +kernel
    have hlater : later = [] := by
      rw [List.nil_append] at hissues
      exact hissues.symm.trans hnone
    cases hp
    rw [hrun, hlater]
    rfl

end ModelRun

end ApiForge
