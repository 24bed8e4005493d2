import ApiForge.Proofs.Potential

/-!
Which of several schemas of one class name a record is made from. A run takes schemas up in an
order: those of a document, then those that wait, as they came. A schema that can be made takes its
name, and a later one of that name finds it taken, so a record is made from the first that can be
made. Main statements: `FirstMade.generateComponents` and `FirstMade.generateDiscovered`.
-/

namespace ApiForge

/-- A schema that a run takes up: its key, the schema as declared, and the part of it that a type is
made from. -/
structure Candidate where
  key : String
  declared : Schema
  body : Schema

namespace Candidate

def name (c : Candidate) : String := Name.className c.key

variable (config : Config) (namespaceName : String)

def isMakeable (c : Candidate) : Bool :=
  (ModelRun.makeNamed config namespaceName c.name c.body
    (ModelRun.notesFor config c.key c.declared)).isOk

/-- The first of some schemas that a type of a name can be made from. -/
def firstFor (tried : List Candidate) (name : String) : Option Candidate :=
  tried.find? fun c => c.name == name && c.isMakeable config namespaceName

variable {config namespaceName}

/-- A schema that can be made is the first of its name if there was none before. -/
theorem firstFor_append_singleton {tried : List Candidate} {c : Candidate}
    (hnone : firstFor config namespaceName tried c.name = none)
    (hc : c.isMakeable config namespaceName = true) :
    firstFor config namespaceName (tried ++ [c]) c.name = some c := by
  unfold firstFor at hnone ⊢
  rw [List.find?_append, hnone, Option.none_or]
  simp [hc]

theorem mem_of_firstFor {tried : List Candidate} {name : String} {c : Candidate}
    (h : firstFor config namespaceName tried name = some c) :
    c ∈ tried ∧ c.name = name ∧ c.isMakeable config namespaceName = true := by
  have hfits := List.find?_some h
  rw [Bool.and_eq_true, beq_iff_eq] at hfits
  exact ⟨List.mem_of_find?_eq_some h, hfits⟩

theorem firstFor_append_of_some {tried : List Candidate} {name : String} {c : Candidate}
    (h : firstFor config namespaceName tried name = some c) (more : List Candidate) :
    firstFor config namespaceName (tried ++ more) name = some c := by
  unfold firstFor at h ⊢
  rw [List.find?_append, h, Option.some_or]

end Candidate

namespace ModelRun

/-- The fields of a type that is made bear the names of the properties, in order. -/
theorem MadeAs.wireNames {name : String} {body : Schema} {notes : Option String} {type : ModelType}
    {code : String} {names : List String} (h : MadeAs name body notes type code names) :
    type.fields.map (·.wireName) = body.properties.map Prod.fst := by
  have hwire : List.Forall₂ (fun (f : ModelField) p => f.wireName = p.1) type.fields
      body.properties := List.Forall₂.flip (h.fields.imp fun _ _ hf => hf.1)
  rw [← List.forall₂_eq_eq_eq, List.forall₂_map_left_iff, List.forall₂_map_right_iff]
  exact hwire

variable (config : Config) (namespaceName : String)

def candidateOf : WorkItem → List Candidate
  | .schema p => [⟨p.key, p.schema, p.schema⟩]
  | .union _ => []

def settleCandidates (afterUnion : Bool) (run : ModelRun) : List Candidate :=
  match _h : run.next? afterUnion with
  | none => []
  | some (item, rest) =>
    candidateOf item ++ settleCandidates (isUnion item) (rest.perform config namespaceName item)
termination_by run.work.nodeCount
decreasing_by exact nodeCount_work_of_next? _h config namespaceName

def componentCandidates (key : String) (schema : Schema) : List Candidate :=
  if config.isSkipped (Name.className key) then []
  else (bodyOf schema).toList.map fun body => ⟨key, schema, body⟩

def declaredCandidates (schemas : List (String × Schema)) : List Candidate :=
  schemas.flatMap fun (key, schema) => componentCandidates config key schema

/-- Every name that a schema could be made under is taken, and every record has the properties of
the first schema that could be made under its name. -/
structure FirstMade (tried : List Candidate) (run : ModelRun) : Prop where
  taken : ∀ c ∈ tried, c.isMakeable config namespaceName = true →
    run.registry.contains c.name = true
  first : ∀ r, .record r ∈ run.types → ∃ c,
    Candidate.firstFor config namespaceName tried r.name = some c ∧
      r.fields.map (·.wireName) = c.body.properties.map Prod.fst

variable {config namespaceName} {tried : List Candidate} {run : ModelRun}

namespace FirstMade

theorem start : FirstMade config namespaceName [] {} where
  taken c hc := by cases hc
  first r hr := by cases hr

/-- Only the names that are taken and the types count. -/
theorem congr {other : ModelRun} (h : FirstMade config namespaceName tried run)
    (hregistry : other.registry = run.registry) (htypes : other.types = run.types) :
    FirstMade config namespaceName tried other where
  taken := by
    rw [hregistry]
    exact h.taken
  first := by
    rw [htypes]
    exact h.first

/-- A schema that finds its name taken, or cannot be made, changes no record. -/
theorem append_idle {c : Candidate} (h : FirstMade config namespaceName tried run)
    (hc : c.isMakeable config namespaceName = true → run.registry.contains c.name = true) :
    FirstMade config namespaceName (tried ++ [c]) run where
  taken := by
    intro other hother
    rcases List.mem_append.mp hother with hother | hother
    · exact h.taken other hother
    · rw [List.mem_singleton.mp hother]
      exact hc
  first := by
    intro r hr
    obtain ⟨made, hmade, hfields⟩ := h.first r hr
    exact ⟨made, Candidate.firstFor_append_of_some hmade [c], hfields⟩

theorem firstFor_eq_none (h : FirstMade config namespaceName tried run) {name : String}
    (hfree : run.registry.contains name = false) :
    Candidate.firstFor config namespaceName tried name = none := by
  unfold Candidate.firstFor
  rw [List.find?_eq_none]
  intro c hc hfits
  rw [Bool.and_eq_true, beq_iff_eq] at hfits
  have htaken := h.taken c hc hfits.2
  rw [hfits.1, hfree] at htaken
  cases htaken

/-- A schema that is made is the first of its name that could be. -/
theorem addNamed {c : Candidate} {type : ModelType} {code : String} {found : Discovered}
    (h : FirstMade config namespaceName tried run) (hfree : run.registry.contains c.name = false)
    (hmake : makeNamed config namespaceName c.name c.body (notesFor config c.key c.declared) =
      .ok (type, code, found)) :
    FirstMade config namespaceName (tried ++ [c])
      ((run.claim c.name).addNamed c.name (notesFor config c.key c.declared) type code found) where
  taken := by
    intro other hother hmakeable
    show (run.registry.claim c.name).contains other.name = true
    rw [Registry.contains_iff, Registry.mem_claim]
    rcases List.mem_append.mp hother with hother | hother
    · exact .inl (Registry.contains_iff.mp (h.taken other hother hmakeable))
    · rw [List.mem_singleton.mp hother]
      exact .inr rfl
  first := by
    intro r hr
    have hmem : .record r ∈ run.types ++ [type] := hr
    rcases List.mem_append.mp hmem with hold | hnew
    · obtain ⟨made, hmade, hfields⟩ := h.first r hold
      exact ⟨made, Candidate.firstFor_append_of_some hmade [c], hfields⟩
    · have hmakeable : c.isMakeable config namespaceName = true := by
        rw [Candidate.isMakeable, hmake]
        rfl
      have hmade := of_makeNamed hmake
      rw [← List.mem_singleton.mp hnew] at hmade
      have hname : r.name = c.name := Option.some.inj hmade.name_eq
      refine ⟨c, ?_, hmade.wireNames⟩
      rw [hname]
      exact Candidate.firstFor_append_singleton (h.firstFor_eq_none hfree) hmakeable

theorem generateNamed (h : FirstMade config namespaceName tried run) (key : String)
    (declared body : Schema) :
    FirstMade config namespaceName (tried ++ [⟨key, declared, body⟩])
      (generateNamed config namespaceName run key declared body) := by
  rcases generateNamed_cases config namespaceName run key declared body with
    ⟨htaken, heq⟩ | ⟨hfree, ⟨p, hmake, heq⟩ | ⟨type, code, found, hmake, heq⟩⟩
  · rw [heq]
    exact h.append_idle fun _ => htaken
  · rw [heq]
    have hidle : FirstMade config namespaceName (tried ++ [⟨key, declared, body⟩]) run := by
      refine h.append_idle fun hmakeable => ?_
      rw [Candidate.isMakeable, Candidate.name, hmake] at hmakeable
      cases hmakeable
    exact hidle.congr rfl rfl
  · rw [heq]
    exact h.addNamed (c := ⟨key, declared, body⟩) hfree hmake

/-- The types of a union are no records, and the names that it takes stay taken. -/
theorem addUnion (h : FirstMade config namespaceName tried run) (u : DerivedUnion)
    (found : Discovered) :
    FirstMade config namespaceName tried (addUnion namespaceName run u found) where
  taken := by
    intro c hc hmakeable
    show (u.variants.foldl (fun r v => r.claim v.name) (run.registry.claim u.marker.name)).contains
      c.name = true
    rw [Registry.contains_iff, Registry.mem_foldl_claim, Registry.mem_claim]
    exact .inl (.inl (Registry.contains_iff.mp (h.taken c hc hmakeable)))
  first := by
    intro r hr
    have hmem : .record r ∈ run.types ++ .marker u.marker :: u.variants.map ModelType.variant := hr
    rcases List.mem_append.mp hmem with hold | hnew
    · exact h.first r hold
    · rcases List.mem_cons.mp hnew with hmarker | hvariant
      · cases hmarker
      · obtain ⟨v, _, hv⟩ := List.mem_map.mp hvariant
        cases hv

theorem generateUnion (h : FirstMade config namespaceName tried run) (group : UnionGroup) :
    FirstMade config namespaceName tried (generateUnion config namespaceName run group) := by
  rw [ModelRun.generateUnion]
  rcases makeUnion config namespaceName run.registry group with p | (_ | ⟨u, found⟩)
  · exact h.congr rfl rfl
  · exact h
  · exact h.addUnion u found

theorem perform (h : FirstMade config namespaceName tried run) (item : WorkItem) :
    FirstMade config namespaceName (tried ++ candidateOf item)
      (run.perform config namespaceName item) := by
  cases item with
  | schema p => exact h.generateNamed p.key p.schema p.schema
  | union g =>
    rw [candidateOf, List.append_nil]
    exact h.generateUnion g

theorem next {rest : ModelRun} {afterUnion : Bool} {item : WorkItem}
    (h : FirstMade config namespaceName tried run)
    (hnext : run.next? afterUnion = some (item, rest)) :
    FirstMade config namespaceName tried rest := by
  rcases next?_cases hnext with ⟨_, _, _, _, rfl⟩ | ⟨_, _, _, _, rfl⟩
  · exact h.congr rfl rfl
  · exact h.congr rfl rfl

theorem settle (afterUnion : Bool) (run : ModelRun) :
    ∀ tried, FirstMade config namespaceName tried run →
      FirstMade config namespaceName
        (tried ++ settleCandidates config namespaceName afterUnion run)
        (settle config namespaceName afterUnion run) := by
  induction afterUnion, run using ModelRun.settle.induct config namespaceName with
  | case1 afterUnion run hnone =>
    intro tried h
    rw [settleCandidates, ModelRun.settle, hnone]
    simpa using h
  | case2 afterUnion run item rest hnext ih =>
    intro tried h
    have hdone := ih _ ((h.next hnext).perform item)
    rw [settleCandidates, ModelRun.settle, hnext]
    simpa using hdone

theorem generateComponent (h : FirstMade config namespaceName tried run) (key : String)
    (schema : Schema) :
    FirstMade config namespaceName (tried ++ componentCandidates config key schema)
      (generateComponent config namespaceName run key schema) := by
  rw [componentCandidates, ModelRun.generateComponent]
  split
  · simpa using h
  · cases bodyOf schema with
    | none => simpa using h
    | some body => exact h.generateNamed key schema body

theorem takeDeclared (h : FirstMade config namespaceName tried run)
    (schemas : List (String × Schema)) :
    FirstMade config namespaceName (tried ++ declaredCandidates config schemas)
      (takeDeclared config namespaceName run schemas) := by
  induction schemas generalizing tried run with
  | nil => simpa [declaredCandidates, ModelRun.takeDeclared] using h
  | cons p rest ih =>
    have hrest := ih (h.generateComponent p.1 p.2)
    simpa [declaredCandidates, ModelRun.takeDeclared] using hrest

/-- The schemas of a document come first, then those that they give rise to. -/
theorem generateComponents (h : FirstMade config namespaceName tried run)
    (schemas : Entries Schema) :
    FirstMade config namespaceName
      (tried ++ (declaredCandidates config schemas ++
        settleCandidates config namespaceName false
          (ModelRun.takeDeclared config namespaceName run schemas)))
      (generateComponents config namespaceName run schemas) := by
  rw [← List.append_assoc]
  exact settle false _ _ (h.takeDeclared schemas)

theorem generateDiscovered (h : FirstMade config namespaceName tried run) (found : Discovered) :
    FirstMade config namespaceName
      (tried ++ settleCandidates config namespaceName false (run.commit found))
      (generateDiscovered config namespaceName run found) :=
  settle false _ _ (h.congr rfl rfl)

end FirstMade

/-! What waits is taken up. -/

theorem pending_subset_generateNamed (run : ModelRun) (key : String) (declared body : Schema) :
    run.pending ⊆ (generateNamed config namespaceName run key declared body).pending := by
  unfold generateNamed
  dsimp only
  split
  · exact fun _ h => h
  · split
    · exact List.subset_append_left run.pending _
    · exact fun _ h => h

theorem pending_subset_perform (run : ModelRun) (item : WorkItem) :
    run.pending ⊆ (run.perform config namespaceName item).pending := by
  cases item with
  | schema p => exact pending_subset_generateNamed run p.key p.schema p.schema
  | union g =>
    rw [perform, generateUnion]
    split
    · exact List.subset_append_left run.pending _
    · exact fun _ h => h
    · exact fun _ h => h

/-- Every schema that waits is taken up in the end. -/
theorem mem_settleCandidates (afterUnion : Bool) (run : ModelRun) :
    ∀ p ∈ run.pending,
      ⟨p.key, p.schema, p.schema⟩ ∈ settleCandidates config namespaceName afterUnion run := by
  induction afterUnion, run using ModelRun.settle.induct config namespaceName with
  | case1 afterUnion run hnone =>
    intro p hp
    rw [(next?_eq_none_iff.mp hnone).1] at hp
    cases hp
  | case2 afterUnion run item rest hnext ih =>
    intro p hp
    rw [settleCandidates, hnext]
    refine List.mem_append.mpr ?_
    rcases next?_cases hnext with ⟨q, qs, hq, rfl, rfl⟩ | ⟨g, gs, _, rfl, rfl⟩
    · rw [hq] at hp
      rcases List.mem_cons.mp hp with rfl | hp
      · exact .inl (List.mem_singleton.mpr rfl)
      · exact .inr (ih p (pending_subset_perform _ _ hp))
    · exact .inr (ih p (pending_subset_perform _ _ hp))

end ModelRun

end ApiForge
