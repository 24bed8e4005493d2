import ApiForge.Model.Run

/-!
Working until nothing waits. Schemas are taken in the order in which they came, and once none is
left the unions are; a kind of work is kept up until there is no more of it. Every piece of work
finds less than it consists of, so the end is reached.
-/

namespace ApiForge

/-- A piece of work. -/
inductive WorkItem where
  | schema (p : PendingSchema)
  | union (g : UnionGroup)

namespace ModelRun

/-- The oldest schema that waits, and the run without it. -/
def nextSchema? (run : ModelRun) : Option (WorkItem × ModelRun) :=
  match run.pending with
  | [] => none
  | p :: rest => some (.schema p, { run with pending := rest })

/-- The oldest union that waits, and the run without it. -/
def nextUnion? (run : ModelRun) : Option (WorkItem × ModelRun) :=
  match run.unions with
  | [] => none
  | g :: rest => some (.union g, { run with unions := rest })

/-- The next piece of work, of the kind that was taken last if there is one. -/
def next? (afterUnion : Bool) (run : ModelRun) : Option (WorkItem × ModelRun) :=
  if afterUnion then run.nextUnion?.or run.nextSchema? else run.nextSchema?.or run.nextUnion?

def perform (config : Config) (namespaceName : String) (run : ModelRun) : WorkItem → ModelRun
  | .schema p => generateNamed config namespaceName run p.key p.schema p.schema
  | .union g => generateUnion config namespaceName run g

def isUnion : WorkItem → Bool
  | .schema _ => false
  | .union _ => true

theorem nodeCount_work_of_nextSchema? {run rest : ModelRun} {item : WorkItem}
    (h : run.nextSchema? = some (item, rest)) (config : Config) (namespaceName : String) :
    (rest.perform config namespaceName item).work.nodeCount < run.work.nodeCount := by
  unfold nextSchema? at h
  split at h
  · simp at h
  · rename_i p ps hp
    simp only [Option.some.injEq, Prod.mk.injEq] at h
    obtain ⟨rfl, rfl⟩ := h
    refine Nat.lt_of_lt_of_le
      (nodeCount_work_generateNamed config namespaceName _ p.key p.schema p.schema) ?_
    simp only [work, Discovered.nodeCount, hp, List.map_cons, Schema.countAll_cons]
    omega

theorem nodeCount_work_of_nextUnion? {run rest : ModelRun} {item : WorkItem}
    (h : run.nextUnion? = some (item, rest)) (config : Config) (namespaceName : String) :
    (rest.perform config namespaceName item).work.nodeCount < run.work.nodeCount := by
  unfold nextUnion? at h
  split at h
  · simp at h
  · rename_i g gs hg
    simp only [Option.some.injEq, Prod.mk.injEq] at h
    obtain ⟨rfl, rfl⟩ := h
    refine Nat.lt_of_le_of_lt (nodeCount_work_generateUnion config namespaceName _ g) ?_
    simp only [work, Discovered.nodeCount, hg, List.flatMap_cons, Schema.countAll_append,
      List.length_cons]
    omega

theorem nodeCount_work_of_next? {afterUnion : Bool} {run rest : ModelRun} {item : WorkItem}
    (h : run.next? afterUnion = some (item, rest)) (config : Config) (namespaceName : String) :
    (rest.perform config namespaceName item).work.nodeCount < run.work.nodeCount := by
  unfold next? at h
  split at h <;> rcases Option.or_eq_some_iff.mp h with h | ⟨_, h⟩
  · exact nodeCount_work_of_nextUnion? h config namespaceName
  · exact nodeCount_work_of_nextSchema? h config namespaceName
  · exact nodeCount_work_of_nextSchema? h config namespaceName
  · exact nodeCount_work_of_nextUnion? h config namespaceName

/-- Works until nothing waits. -/
def settle (config : Config) (namespaceName : String) (afterUnion : Bool) (run : ModelRun) :
    ModelRun :=
  match _h : run.next? afterUnion with
  | none => run
  | some (item, rest) =>
    settle config namespaceName (isUnion item) (rest.perform config namespaceName item)
termination_by run.work.nodeCount
decreasing_by exact nodeCount_work_of_next? _h config namespaceName

/-- The part of a schema of a document that a type is made from, if one is: an object, an
enumeration, a schema without a type, or the items of a list of objects. -/
def bodyOf (schema : Schema) : Option Schema :=
  match schema.shape with
  | .object _ _ => some schema
  | .untyped => some schema
  | .enumeration _ => some schema
  | .array (some items) => if items.isInlineObject then some items else none
  | _ => none

/-- Makes the type of a schema of a document. -/
def generateComponent (config : Config) (namespaceName : String) (run : ModelRun)
    (key : String) (schema : Schema) : ModelRun :=
  if config.isSkipped (Name.className key) then run
  else
    match bodyOf schema with
    | some body => generateNamed config namespaceName run key schema body
    | none => run

/-- Makes the types of the schemas of a document, and all that they give rise to. -/
def generateComponents (config : Config) (namespaceName : String) (run : ModelRun)
    (schemas : Entries Schema) : ModelRun :=
  settle config namespaceName false <|
    schemas.foldl (fun run (key, schema) =>
      generateComponent config namespaceName run key schema) run

/-- Makes the types of work that was found elsewhere, and all that it gives rise to. -/
def generateDiscovered (config : Config) (namespaceName : String) (run : ModelRun)
    (found : Discovered) : ModelRun :=
  settle config namespaceName false (run.commit found)

end ModelRun

end ApiForge
