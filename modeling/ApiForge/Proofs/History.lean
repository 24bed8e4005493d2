import ApiForge.Model.Finish
import ApiForge.Proofs.Resolution

/-!
The runs that calls of a generator lead to, with their histories: what types were made from, in the
order in which they were made. A history says of every record and variant which schema it comes
from, where the run itself only keeps the result. Main statement: what holds at the start and is
kept by every single step holds of every run, in whatever order work was queued and taken
(`Reached.of_invariant`).
-/

namespace ApiForge

/-- What types are made from. -/
inductive Making where
  /-- One type, from a schema with a key. -/
  | named (key : String) (body : Schema)
  /-- The types of a union, where some names were taken. -/
  | union (group : UnionGroup) (taken : List String)

namespace ModelRun

variable (config : Config) (namespaceName : String)

def notesFor (key : String) (declared : Schema) : Option String :=
  if config.emitMetadata then some (Emit.schemaNotes key declared) else none

section Outcomes

variable {config namespaceName} {run : ModelRun} {key : String} {declared body : Schema}

/-! What becomes of a schema: its name is taken, it cannot be made, or it is made. -/

theorem generateNamed_of_taken (h : run.registry.contains (Name.className key) = true) :
    generateNamed config namespaceName run key declared body = run := by
  unfold generateNamed
  dsimp only
  rw [if_pos h]

theorem generateNamed_of_error {p : Problem}
    (hfree : run.registry.contains (Name.className key) = false)
    (hmake : makeNamed config namespaceName (Name.className key) body
      (notesFor config key declared) = .error p) :
    generateNamed config namespaceName run key declared body = run.note p := by
  unfold generateNamed
  dsimp only
  rw [← notesFor, hmake, hfree, if_neg Bool.false_ne_true]
  dsimp only
  rw [release_claim hfree]

theorem generateNamed_of_ok {type : ModelType} {code : String} {found : Discovered}
    (hfree : run.registry.contains (Name.className key) = false)
    (hmake : makeNamed config namespaceName (Name.className key) body
      (notesFor config key declared) = .ok (type, code, found)) :
    generateNamed config namespaceName run key declared body =
      (run.claim (Name.className key)).addNamed (Name.className key)
        (notesFor config key declared) type code found := by
  unfold generateNamed
  dsimp only
  rw [← notesFor, hmake, hfree, if_neg Bool.false_ne_true]

variable (config namespaceName run key declared body)

theorem generateNamed_cases :
    (run.registry.contains (Name.className key) = true ∧
      generateNamed config namespaceName run key declared body = run) ∨
    run.registry.contains (Name.className key) = false ∧
      ((∃ p, makeNamed config namespaceName (Name.className key) body
          (notesFor config key declared) = .error p ∧
        generateNamed config namespaceName run key declared body = run.note p) ∨
      ∃ type code found, makeNamed config namespaceName (Name.className key) body
          (notesFor config key declared) = .ok (type, code, found) ∧
        generateNamed config namespaceName run key declared body =
          (run.claim (Name.className key)).addNamed (Name.className key)
            (notesFor config key declared) type code found) := by
  cases hfree : run.registry.contains (Name.className key) with
  | true => exact .inl ⟨rfl, generateNamed_of_taken hfree⟩
  | false =>
    refine .inr ⟨rfl, ?_⟩
    rcases hmake : makeNamed config namespaceName (Name.className key) body
      (notesFor config key declared) with p | ⟨type, code, found⟩
    · exact .inl ⟨p, rfl, generateNamed_of_error hfree hmake⟩
    · exact .inr ⟨type, code, found, rfl, generateNamed_of_ok hfree hmake⟩

end Outcomes

/-- What `generateNamed` makes types from. -/
def namedMakings (run : ModelRun) (key : String) (declared body : Schema) : List Making :=
  if run.registry.contains (Name.className key) then []
  else
    match makeNamed config namespaceName (Name.className key) body
        (notesFor config key declared) with
    | .ok _ => [.named key body]
    | .error _ => []

def unionMakings (run : ModelRun) (group : UnionGroup) : List Making :=
  match makeUnion config namespaceName run.registry group with
  | .ok (some _) => [.union group run.registry.names]
  | .ok none => []
  | .error _ => []

def performMakings (run : ModelRun) : WorkItem → List Making
  | .schema p => namedMakings config namespaceName run p.key p.schema p.schema
  | .union g => unionMakings config namespaceName run g

def settleMakings (afterUnion : Bool) (run : ModelRun) : List Making :=
  match _h : run.next? afterUnion with
  | none => []
  | some (item, rest) =>
    performMakings config namespaceName rest item ++
      settleMakings (isUnion item) (rest.perform config namespaceName item)
termination_by run.work.nodeCount
decreasing_by exact nodeCount_work_of_next? _h config namespaceName

def componentMakings (run : ModelRun) (key : String) (schema : Schema) : List Making :=
  if config.isSkipped (Name.className key) then []
  else
    match bodyOf schema with
    | some body => namedMakings config namespaceName run key schema body
    | none => []

/-- What the schemas of a document make types from, before the work that they give rise to. -/
def declaredMakings (run : ModelRun) : List (String × Schema) → List Making
  | [] => []
  | (key, schema) :: rest =>
    componentMakings config namespaceName run key schema ++
      declaredMakings (generateComponent config namespaceName run key schema) rest

/-- The run once the schemas of a document have been taken in. -/
def takeDeclared (run : ModelRun) (schemas : List (String × Schema)) : ModelRun :=
  schemas.foldl (fun run (key, schema) => generateComponent config namespaceName run key schema) run

/-- The runs that calls lead to, with what types were made from on the way. -/
inductive Reached : List Making → ModelRun → Prop
  | start : Reached [] {}
  | components {history : List Making} {run : ModelRun} (schemas : Entries Schema)
      (h : Reached history run) :
      Reached
        (history ++ declaredMakings config namespaceName run schemas ++
          settleMakings config namespaceName false
            (takeDeclared config namespaceName run schemas))
        (generateComponents config namespaceName run schemas)
  | discovered {history : List Making} {run : ModelRun} (found : Discovered)
      (h : Reached history run) :
      Reached (history ++ settleMakings config namespaceName false (run.commit found))
        (generateDiscovered config namespaceName run found)

/-- A piece of work that is taken is the oldest of its kind, and only its queue is shorter. -/
theorem next?_cases {run rest : ModelRun} {afterUnion : Bool} {item : WorkItem}
    (h : run.next? afterUnion = some (item, rest)) :
    (∃ p ps, run.pending = p :: ps ∧ item = .schema p ∧ rest = { run with pending := ps }) ∨
      ∃ g gs, run.unions = g :: gs ∧ item = .union g ∧ rest = { run with unions := gs } := by
  have hschema : run.nextSchema? = some (item, rest) →
      ∃ p ps, run.pending = p :: ps ∧ item = .schema p ∧ rest = { run with pending := ps } := by
    intro hs
    unfold nextSchema? at hs
    split at hs
    · cases hs
    · next p ps hp =>
      cases hs
      exact ⟨p, ps, hp, rfl, rfl⟩
  have hunion : run.nextUnion? = some (item, rest) →
      ∃ g gs, run.unions = g :: gs ∧ item = .union g ∧ rest = { run with unions := gs } := by
    intro hu
    unfold nextUnion? at hu
    split at hu
    · cases hu
    · next g gs hg =>
      cases hu
      exact ⟨g, gs, hg, rfl, rfl⟩
  unfold next? at h
  split at h <;> rcases Option.or_eq_some_iff.mp h with h | ⟨_, h⟩
  · exact .inr (hunion h)
  · exact .inl (hschema h)
  · exact .inl (hschema h)
  · exact .inr (hunion h)

/-- What every single step of a run keeps. Work may be queued and taken in any order. -/
structure Invariant (P : List Making → ModelRun → Prop) : Prop where
  start : P [] {}
  note {history run} (p : Problem) : P history run → P history (run.note p)
  commit {history run} (found : Discovered) : P history run → P history (run.commit found)
  take {history run} (pending : List PendingSchema) (unions : List UnionGroup) :
    P history run → P history { run with pending, unions }
  named {history run key body notes type code found} :
    P history run → run.registry.contains (Name.className key) = false →
    makeNamed config namespaceName (Name.className key) body notes = .ok (type, code, found) →
    P (history ++ [.named key body])
      ((run.claim (Name.className key)).addNamed (Name.className key) notes type code found)
  union {history run group u found} :
    P history run →
    makeUnion config namespaceName run.registry group = .ok (some (u, found)) →
    P (history ++ [.union group run.registry.names]) (addUnion namespaceName run u found)

namespace Invariant

variable {config namespaceName} {P : List Making → ModelRun → Prop}

theorem generateNamed (inv : Invariant config namespaceName P) {history : List Making}
    {run : ModelRun} (h : P history run) (key : String) (declared body : Schema) :
    P (history ++ namedMakings config namespaceName run key declared body)
      (generateNamed config namespaceName run key declared body) := by
  rw [namedMakings]
  rcases generateNamed_cases config namespaceName run key declared body with
    ⟨htaken, heq⟩ | ⟨hfree, ⟨p, hmake, heq⟩ | ⟨type, code, found, hmake, heq⟩⟩
  · rw [heq, if_pos htaken, List.append_nil]
    exact h
  · rw [heq, hmake, hfree, if_neg Bool.false_ne_true, List.append_nil]
    exact inv.note p h
  · rw [heq, hmake, hfree, if_neg Bool.false_ne_true]
    exact inv.named h hfree hmake

theorem generateUnion (inv : Invariant config namespaceName P) {history : List Making}
    {run : ModelRun} (h : P history run) (group : UnionGroup) :
    P (history ++ unionMakings config namespaceName run group)
      (generateUnion config namespaceName run group) := by
  rw [unionMakings, ModelRun.generateUnion]
  rcases hmake : makeUnion config namespaceName run.registry group with p | (_ | ⟨u, found⟩)
  · simpa using inv.note p h
  · simpa using h
  · exact inv.union h hmake

theorem perform (inv : Invariant config namespaceName P) {history : List Making} {run : ModelRun}
    (h : P history run) (item : WorkItem) :
    P (history ++ performMakings config namespaceName run item)
      (run.perform config namespaceName item) := by
  cases item with
  | schema p => exact inv.generateNamed h p.key p.schema p.schema
  | union g => exact inv.generateUnion h g

theorem next (inv : Invariant config namespaceName P) {history : List Making}
    {run rest : ModelRun} {afterUnion : Bool} {item : WorkItem} (h : P history run)
    (hnext : run.next? afterUnion = some (item, rest)) : P history rest := by
  rcases next?_cases hnext with ⟨p, ps, _, _, rfl⟩ | ⟨g, gs, _, _, rfl⟩
  · exact inv.take ps run.unions h
  · exact inv.take run.pending gs h

theorem settle (inv : Invariant config namespaceName P) (afterUnion : Bool) (run : ModelRun) :
    ∀ history, P history run →
      P (history ++ settleMakings config namespaceName afterUnion run)
        (settle config namespaceName afterUnion run) := by
  -- The run and the history take the same pieces of work, so one induction serves both.
  induction afterUnion, run using ModelRun.settle.induct config namespaceName with
  | case1 afterUnion run hnone =>
    intro history h
    rw [settleMakings, ModelRun.settle, hnone]
    simpa using h
  | case2 afterUnion run item rest hnext ih =>
    intro history h
    have hdone := ih _ (inv.perform (inv.next h hnext) item)
    rw [settleMakings, ModelRun.settle, hnext]
    simpa using hdone

theorem takeDeclared (inv : Invariant config namespaceName P) {history : List Making}
    {run : ModelRun} (h : P history run) (schemas : List (String × Schema)) :
    P (history ++ declaredMakings config namespaceName run schemas)
      (takeDeclared config namespaceName run schemas) := by
  induction schemas generalizing history run with
  | nil => simpa [declaredMakings, ModelRun.takeDeclared] using h
  | cons p rest ih =>
    obtain ⟨key, schema⟩ := p
    have hstep : P (history ++ componentMakings config namespaceName run key schema)
        (generateComponent config namespaceName run key schema) := by
      rw [componentMakings, generateComponent]
      split
      · simpa using h
      · cases bodyOf schema with
        | none => simpa using h
        | some body => exact inv.generateNamed h key schema body
    simpa [declaredMakings, ModelRun.takeDeclared] using ih hstep

end Invariant

/-- What holds at the start and is kept by every step holds of every run. -/
theorem Reached.of_invariant {config : Config} {namespaceName : String}
    {P : List Making → ModelRun → Prop} (inv : Invariant config namespaceName P)
    {history : List Making} {run : ModelRun} (h : Reached config namespaceName history run) :
    P history run := by
  induction h with
  | start => exact inv.start
  | components schemas _ ih => exact inv.settle false _ _ (inv.takeDeclared ih schemas)
  | discovered found _ ih => exact inv.settle false _ _ (inv.commit found ih)

end ModelRun

end ApiForge
