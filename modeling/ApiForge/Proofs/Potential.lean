import ApiForge.Proofs.TakenNames
import Mathlib.Algebra.GroupWithZero.Nat
import Mathlib.Tactic.Common

/-!
How long a run lasts and how much comes of it. The potential of a run is what it has come to, types
made and problems noted, together with the schemas in the work that waits. A piece of work is taken
off the second part, and what it finds or comes to is never more than it consisted of. Main
statement: working ends after at most as many pieces as there are schemas in the work, nothing waits
then, and over all calls no more types and problems come about than schemas were given
(`calls_settle_within_nodeCount`).
-/

namespace ApiForge

/-- The number of schemas in a piece of work, where a union counts as one more. -/
def WorkItem.nodeCount : WorkItem → Nat
  | .schema p => p.schema.nodeCount
  | .union g => Schema.countAll g.variants + 1

namespace ModelRun

variable (config : Config) (namespaceName : String)

/-- The number of types made and problems noted so far. -/
def yield (run : ModelRun) : Nat := run.types.length + run.issues.length

/-- What a run has come to, and what the work that waits may still come to. -/
def potential (run : ModelRun) : Nat := run.yield + run.work.nodeCount

@[simp] theorem yield_note (run : ModelRun) (p : Problem) :
    (run.note p).yield = run.yield + 1 := by
  change run.types.length + (run.issues ++ [p]).length = _
  rw [yield, List.length_append, List.length_singleton, Nat.add_assoc]

@[simp] theorem yield_claim (run : ModelRun) (name : String) :
    (run.claim name).yield = run.yield := rfl

@[simp] theorem yield_release (run : ModelRun) (name : String) :
    (run.release name).yield = run.yield := rfl

@[simp] theorem yield_commit (run : ModelRun) (found : Discovered) :
    (run.commit found).yield = run.yield := rfl

@[simp] theorem yield_addNamed (run : ModelRun) (name : String) (notes : Option String)
    (type : ModelType) (code : String) (found : Discovered) :
    (run.addNamed name notes type code found).yield = run.yield + 1 := by
  change (run.types ++ [type]).length + run.issues.length = _
  rw [yield, List.length_append, List.length_singleton]
  omega

@[simp] theorem yield_addUnion (run : ModelRun) (u : DerivedUnion) (found : Discovered) :
    (addUnion namespaceName run u found).yield = run.yield + (u.variants.length + 1) := by
  have htypes : (addUnion namespaceName run u found).types =
      run.types ++ .marker u.marker :: u.variants.map .variant := rfl
  have hissues : (addUnion namespaceName run u found).issues = run.issues := rfl
  rw [yield, yield, htypes, hissues, List.length_append, List.length_cons, List.length_map]
  omega

/-! One step. -/

theorem length_variants_of_makeUnion {registry : Registry} {group : UnionGroup} {u : DerivedUnion}
    {found : Discovered}
    (h : makeUnion config namespaceName registry group = .ok (some (u, found))) :
    u.variants.length ≤ group.variants.length := by
  obtain ⟨_, vs, rfl, hvs⟩ := of_makeUnion h
  rw [hvs.length_eq]
  exact (freeVariants_sublist registry.names vs).length_le

theorem potential_generateNamed_le (run : ModelRun) (key : String) (declared body : Schema) :
    (generateNamed config namespaceName run key declared body).potential ≤
      run.potential + body.nodeCount := by
  have hpos := body.nodeCount_pos
  unfold generateNamed
  dsimp only
  split
  · omega
  · split
    · next h =>
      -- The type counts for one, and the schema finds at least one less than it consists of.
      have hfound := nodeCount_lt_of_makeNamed h
      simp only [potential, yield_addNamed, yield_claim, work_addNamed, work_claim,
        Discovered.nodeCount_append]
      omega
    · simp only [potential, yield_note, yield_release, yield_claim, work_note, work_release,
        work_claim]
      omega

theorem potential_generateUnion_le (run : ModelRun) (group : UnionGroup) :
    (generateUnion config namespaceName run group).potential ≤
      run.potential + (Schema.countAll group.variants + 1) := by
  unfold generateUnion
  split
  · next u found h =>
    -- The union itself pays for the marker, and each alternative for its variant.
    have hfound := nodeCount_le_of_makeUnion h
    have hvariants := length_variants_of_makeUnion config namespaceName h
    have hcount := Schema.length_le_countAll group.variants
    simp only [potential, yield_addUnion, work_addUnion, Discovered.nodeCount_append]
    omega
  · omega
  · simp only [potential, yield_note, work_note]
    omega

theorem potential_perform_le (run : ModelRun) (item : WorkItem) :
    (run.perform config namespaceName item).potential ≤ run.potential + item.nodeCount := by
  cases item with
  | schema p => exact potential_generateNamed_le config namespaceName run p.key p.schema p.schema
  | union g => exact potential_generateUnion_le config namespaceName run g

/-- A piece of work that is taken leaves the run with as much less. -/
theorem potential_next? {run rest : ModelRun} {afterUnion : Bool} {item : WorkItem}
    (h : run.next? afterUnion = some (item, rest)) :
    rest.potential + item.nodeCount = run.potential := by
  rcases next?_cases h with ⟨p, ps, hp, rfl, rfl⟩ | ⟨g, gs, hg, rfl, rfl⟩
  · simp only [potential, yield, work, Discovered.nodeCount, WorkItem.nodeCount, hp,
      List.map_cons, Schema.countAll_cons]
    omega
  · simp only [potential, yield, work, Discovered.nodeCount, WorkItem.nodeCount, hg,
      List.flatMap_cons, Schema.countAll_append, List.length_cons]
    omega

theorem next?_eq_none_iff {run : ModelRun} {afterUnion : Bool} :
    run.next? afterUnion = none ↔ run.pending = [] ∧ run.unions = [] := by
  have hschema : run.nextSchema? = none ↔ run.pending = [] := by
    unfold nextSchema?
    split <;> simp_all
  have hunion : run.nextUnion? = none ↔ run.unions = [] := by
    unfold nextUnion?
    split <;> simp_all
  unfold next?
  split
  · rw [Option.or_eq_none_iff, hschema, hunion, and_comm]
  · rw [Option.or_eq_none_iff, hschema, hunion]

/-! Many steps. -/

/-- Taking and performing a number of pieces of work, one after the other, leads from a run to
another. -/
inductive Works : Nat → Bool → ModelRun → ModelRun → Prop
  | rest (afterUnion : Bool) (run : ModelRun) : Works 0 afterUnion run run
  | step {n : Nat} {afterUnion : Bool} {run rest last : ModelRun} {item : WorkItem}
      (next : run.next? afterUnion = some (item, rest))
      (later : Works n (isUnion item) (rest.perform config namespaceName item) last) :
      Works (n + 1) afterUnion run last

namespace Works

variable {config namespaceName} {n : Nat} {afterUnion : Bool} {run last : ModelRun}

/-- However long work has been going on, it had as many schemas to begin with. -/
theorem length_le (h : Works config namespaceName n afterUnion run last) :
    n + last.work.nodeCount ≤ run.work.nodeCount := by
  induction h with
  | rest afterUnion run => omega
  | step next _ ih =>
    have hless := nodeCount_work_of_next? next config namespaceName
    omega

theorem potential_le (h : Works config namespaceName n afterUnion run last) :
    last.potential ≤ run.potential := by
  induction h with
  | rest afterUnion run => exact Nat.le_refl _
  | @step _ _ _ rest _ item next _ ih =>
    have htaken := potential_next? next
    have hdone := potential_perform_le config namespaceName rest item
    omega

end Works

theorem works_settle (afterUnion : Bool) (run : ModelRun) :
    ∃ n, Works config namespaceName n afterUnion run
      (settle config namespaceName afterUnion run) := by
  induction afterUnion, run using settle.induct config namespaceName with
  | case1 afterUnion run hnone =>
    rw [settle, hnone]
    exact ⟨0, .rest afterUnion run⟩
  | case2 afterUnion run item rest hnext ih =>
    rw [settle, hnext]
    obtain ⟨n, hworks⟩ := ih
    exact ⟨n + 1, .step hnext hworks⟩

theorem work_settle (afterUnion : Bool) (run : ModelRun) :
    (settle config namespaceName afterUnion run).pending = [] ∧
      (settle config namespaceName afterUnion run).unions = [] := by
  induction afterUnion, run using settle.induct config namespaceName with
  | case1 afterUnion run hnone =>
    rw [settle, hnone]
    exact next?_eq_none_iff.mp hnone
  | case2 afterUnion run item rest hnext ih =>
    rw [settle, hnext]
    exact ih

/-! Calls. -/

/-- A call of a generator with what it is given. -/
inductive Call where
  /-- The schemas of a document. -/
  | components (schemas : Entries Schema)
  /-- Work that was found elsewhere. -/
  | discovered (found : Discovered)

/-- The number of schemas that a call is given, where a union given directly counts as one more. -/
def Call.nodeCount : Call → Nat
  | components schemas => Schema.countAll (schemas.map (·.2))
  | discovered found => found.nodeCount

def call (run : ModelRun) : Call → ModelRun
  | .components schemas => generateComponents config namespaceName run schemas
  | .discovered found => generateDiscovered config namespaceName run found

/-- The run after some calls of a new generator. -/
def afterCalls (calls : List Call) : ModelRun := calls.foldl (call config namespaceName) {}

theorem nodeCount_bodyOf_le {schema body : Schema} (h : bodyOf schema = some body) :
    body.nodeCount ≤ schema.nodeCount := by
  obtain ⟨notes, shape⟩ := schema
  cases shape with
  | array items =>
    cases items with
    | none => cases h
    | some items =>
      simp only [bodyOf, Schema.shape, Option.ite_none_right_eq_some, Option.some.injEq] at h
      obtain ⟨_, rfl⟩ := h
      rw [Schema.nodeCount, Schema.countShape]
      omega
  | object properties required =>
    cases h
    exact Nat.le_refl _
  | enumeration values =>
    cases h
    exact Nat.le_refl _
  | untyped =>
    cases h
    exact Nat.le_refl _
  | reference target => cases h
  | oneOf variants => cases h
  | primitive kind format => cases h

theorem potential_generateComponent_le (run : ModelRun) (key : String) (schema : Schema) :
    (generateComponent config namespaceName run key schema).potential ≤
      run.potential + schema.nodeCount := by
  unfold generateComponent
  split
  · omega
  · split
    · next body hbody =>
      have hle := nodeCount_bodyOf_le hbody
      have hmade := potential_generateNamed_le config namespaceName run key schema body
      omega
    · omega

theorem potential_takeDeclared_le (run : ModelRun) (schemas : List (String × Schema)) :
    (takeDeclared config namespaceName run schemas).potential ≤
      run.potential + Schema.countAll (schemas.map (·.2)) := by
  induction schemas generalizing run with
  | nil => exact Nat.le_refl _
  | cons p rest ih =>
    have hfirst := potential_generateComponent_le config namespaceName run p.1 p.2
    have hrest := ih (generateComponent config namespaceName run p.1 p.2)
    rw [List.map_cons, Schema.countAll_cons]
    change (takeDeclared config namespaceName
      (generateComponent config namespaceName run p.1 p.2) rest).potential ≤ _
    omega

theorem potential_settle_le (afterUnion : Bool) (run : ModelRun) :
    (settle config namespaceName afterUnion run).potential ≤ run.potential := by
  obtain ⟨_, hworks⟩ := works_settle config namespaceName afterUnion run
  exact hworks.potential_le

theorem potential_call_le (run : ModelRun) (c : Call) :
    (run.call config namespaceName c).potential ≤ run.potential + c.nodeCount := by
  cases c with
  | components schemas =>
    exact (potential_settle_le config namespaceName false _).trans
      (potential_takeDeclared_le config namespaceName run schemas)
  | discovered found =>
    refine (potential_settle_le config namespaceName false _).trans ?_
    simp only [potential, yield_commit, work_commit, Discovered.nodeCount_append, Call.nodeCount]
    omega

theorem work_call (run : ModelRun) (c : Call) :
    (run.call config namespaceName c).pending = [] ∧
      (run.call config namespaceName c).unions = [] := by
  cases c with
  | components schemas => exact work_settle config namespaceName false _
  | discovered found => exact work_settle config namespaceName false _

theorem work_afterCalls (calls : List Call) :
    (afterCalls config namespaceName calls).pending = [] ∧
      (afterCalls config namespaceName calls).unions = [] := by
  -- Every call ends with nothing waiting, so the last one decides.
  rcases List.eq_nil_or_concat' calls with rfl | ⟨earlier, c, rfl⟩
  · exact ⟨rfl, rfl⟩
  · rw [afterCalls, List.foldl_append]
    exact work_call config namespaceName _ c

theorem potential_foldl_call_le (run : ModelRun) (calls : List Call) :
    (calls.foldl (call config namespaceName) run).potential ≤
      run.potential + (calls.map Call.nodeCount).sum := by
  induction calls generalizing run with
  | nil => exact Nat.le_refl _
  | cons c rest ih =>
    have hfirst := potential_call_le config namespaceName run c
    have hrest := ih (run.call config namespaceName c)
    rw [List.foldl_cons, List.map_cons, List.sum_cons]
    omega

/-- From every run, working until nothing waits takes at most as many pieces of work as there are
schemas in the work. A call brings no more types and problems about than there are schemas in what
it is given and in what waited before; over all calls of a generator there are no more than schemas
were given. -/
theorem calls_settle_within_nodeCount :
    (∀ (afterUnion : Bool) (run : ModelRun), ∃ n ≤ run.work.nodeCount,
      Works config namespaceName n afterUnion run (settle config namespaceName afterUnion run) ∧
      (settle config namespaceName afterUnion run).pending = [] ∧
      (settle config namespaceName afterUnion run).unions = []) ∧
    (∀ (run : ModelRun) (c : Call),
      (run.call config namespaceName c).pending = [] ∧
      (run.call config namespaceName c).unions = [] ∧
      (run.call config namespaceName c).types.length +
          (run.call config namespaceName c).issues.length ≤
        run.types.length + run.issues.length + (run.work.nodeCount + c.nodeCount)) ∧
    ∀ calls : List Call,
      (afterCalls config namespaceName calls).pending = [] ∧
      (afterCalls config namespaceName calls).unions = [] ∧
      (afterCalls config namespaceName calls).types.length +
          (afterCalls config namespaceName calls).issues.length ≤
        (calls.map Call.nodeCount).sum := by
  refine ⟨fun afterUnion run => ?_, fun run c => ?_, fun calls => ?_⟩
  · obtain ⟨n, hworks⟩ := works_settle config namespaceName afterUnion run
    exact ⟨n, (Nat.le_add_right _ _).trans hworks.length_le, hworks,
      work_settle config namespaceName afterUnion run⟩
  · obtain ⟨hpending, hunions⟩ := work_call config namespaceName run c
    have hle := potential_call_le config namespaceName run c
    simp only [potential, yield] at hle
    exact ⟨hpending, hunions, by omega⟩
  · obtain ⟨hpending, hunions⟩ := work_afterCalls config namespaceName calls
    have hle := potential_foldl_call_le config namespaceName {} calls
    have hstart : ({} : ModelRun).potential = 0 := rfl
    rw [hstart, Nat.zero_add, ← afterCalls, potential, yield] at hle
    exact ⟨hpending, hunions, by omega⟩

end ModelRun

end ApiForge
