import ApiForge.Config
import ApiForge.Emit.Unit
import ApiForge.Model.Finding

/-!
Making the types of a document, one schema or union at a time. A schema or union that cannot be
made leaves a problem behind and nothing else; one that is made takes its names, and the work that
it gives rise to is queued.
-/

namespace ApiForge

/-- The types made so far and the work that waits. -/
structure ModelRun where
  registry : Registry := {}
  pending : List PendingSchema := []
  unions : List UnionGroup := []
  /-- The names that types are to be made under. -/
  forward : List String := []
  /-- The comments about schemas, by the names of their types. -/
  notes : Entries String := []
  units : Entries String := []
  types : List ModelType := []
  plans : List Plan := []
  issues : List Problem := []

namespace ModelRun

def note (run : ModelRun) (p : Problem) : ModelRun := { run with issues := run.issues ++ [p] }

/-- Queues work. -/
def commit (run : ModelRun) (found : Discovered) : ModelRun :=
  { run with
    forward := run.forward ++ found.pending.map (Name.className ·.key)
      ++ found.unions.map (Name.unionName ·.owner)
    pending := run.pending ++ found.pending
    unions := run.unions ++ found.unions }

/-- Takes a name for a type. -/
def claim (run : ModelRun) (name : String) : ModelRun :=
  { run with registry := run.registry.claim name }

/-- Gives the name of a type back. -/
def release (run : ModelRun) (name : String) : ModelRun :=
  { run with registry := run.registry.release name }

theorem release_claim {run : ModelRun} {name : String}
    (h : run.registry.contains name = false) : (run.claim name).release name = run := by
  rw [release, claim, Registry.release_claim h]

/-- A schema as a type of a name, with its unit. -/
def render (namespaceName name : String) (body : Schema) (notes : Option String) :
    Resolving (ModelType × String) :=
  match body.shape with
  | .enumeration _ =>
    let e := Resolving.enumeration name body namespaceName
    return (.enumeration e, Emit.enumerationUnit e notes)
  | _ => do
    let r ← Resolving.record name body namespaceName
    return (.record r, Emit.recordUnit r notes)

/-- A schema as a type whose unit is well-formed, with the work it gives rise to. -/
def makeNamed (config : Config) (namespaceName name : String) (body : Schema)
    (notes : Option String) : Except Problem (ModelType × String × Discovered) := do
  let ((type, code), found) ← (render namespaceName name body notes).outcome
  config.verify code
  return (type, code, found)

/-- Adds a type that was made under a name. -/
def addNamed (run : ModelRun) (name : String) (notes : Option String) (type : ModelType)
    (code : String) (found : Discovered) : ModelRun :=
  let run := run.commit found
  { run with
    notes := match notes with
      | some text => run.notes.put name text
      | none => run.notes
    units := run.units.put name code
    types := run.types ++ [type] }

/-- Makes the type of a schema with a key, unless its name is taken. The comment is about the
schema as declared, the type is made from its body. The name is taken before the type is made, and
given back when it cannot be made. -/
def generateNamed (config : Config) (namespaceName : String) (run : ModelRun) (key : String)
    (declared body : Schema) : ModelRun :=
  let name := Name.className key
  if run.registry.contains name then run
  else
    let run := run.claim name
    let notes := if config.emitMetadata then some (Emit.schemaNotes key declared) else none
    match makeNamed config namespaceName name body notes with
    | .ok (type, code, found) => run.addNamed name notes type code found
    | .error p => (run.release name).note p

/-- The units of a union in order: its marker, its variants, and what decodes it. -/
def unionUnits (namespaceName : String) (u : DerivedUnion) : List (String × String) :=
  (u.marker.name, Emit.markerUnit u.marker) ::
    u.variants.map (fun v => (v.name, Emit.variantUnit v)) ++
    [(Name.codecName u.marker.name, Emit.codecUnit u.plan namespaceName)]

/-- A union whose units are all well-formed, with the work it gives rise to; none when its name is
taken. Variants whose names are taken are left out. -/
def makeUnion (config : Config) (namespaceName : String) (registry : Registry)
    (group : UnionGroup) : Except Problem (Option (DerivedUnion × Discovered)) := do
  match ← (DerivedUnion.derive registry group namespaceName).outcome with
  | (none, _) => return none
  | (some derived, found) =>
    let u := derived.restrict registry
    (unionUnits namespaceName u).forM fun (_, code) => config.verify code
    return some (u, found)

def addUnion (namespaceName : String) (run : ModelRun) (u : DerivedUnion) (found : Discovered) :
    ModelRun :=
  let run := run.commit found
  { run with
    registry := u.variants.foldl (fun r v => r.claim v.name) (run.registry.claim u.marker.name)
    units := run.units.putAll (unionUnits namespaceName u)
    types := run.types ++ .marker u.marker :: u.variants.map .variant
    plans := run.plans ++ [u.plan] }

/-- Makes the types of a union, unless its name is taken. -/
def generateUnion (config : Config) (namespaceName : String) (run : ModelRun)
    (group : UnionGroup) : ModelRun :=
  match makeUnion config namespaceName run.registry group with
  | .ok (some (u, found)) => addUnion namespaceName run u found
  | .ok none => run
  | .error p => run.note p

/-- The work that waits. -/
def work (run : ModelRun) : Discovered := ⟨run.pending, run.unions⟩

@[simp] theorem work_note (run : ModelRun) (p : Problem) : (run.note p).work = run.work := rfl

@[simp] theorem work_claim (run : ModelRun) (name : String) :
    (run.claim name).work = run.work := rfl

@[simp] theorem work_release (run : ModelRun) (name : String) :
    (run.release name).work = run.work := rfl

@[simp] theorem work_commit (run : ModelRun) (found : Discovered) :
    (run.commit found).work = run.work ++ found := rfl

@[simp] theorem work_addNamed (run : ModelRun) (name : String) (notes : Option String)
    (type : ModelType) (code : String) (found : Discovered) :
    (run.addNamed name notes type code found).work = run.work ++ found := rfl

@[simp] theorem work_addUnion (namespaceName : String) (run : ModelRun) (u : DerivedUnion)
    (found : Discovered) : (addUnion namespaceName run u found).work = run.work ++ found := rfl

/-- A schema finds fewer schemas than it consists of. -/
theorem nodeCount_lt_of_makeNamed {config : Config} {namespaceName name : String} {body : Schema}
    {notes : Option String} {type : ModelType} {code : String} {found : Discovered}
    (h : makeNamed config namespaceName name body notes = .ok (type, code, found)) :
    found.nodeCount < body.nodeCount := by
  have hrender : (render namespaceName name body notes).Finds (body.nodeCount - 1) := by
    unfold render
    split
    · exact (Resolving.Finds.pure _).mono (Nat.zero_le _)
    · exact Resolving.Finds.bind_left (Resolving.finds_record name body namespaceName)
        fun _ => Resolving.Finds.pure _
  unfold makeNamed at h
  cases ho : (render namespaceName name body notes).outcome with
  | error p => simp [ho, bind, Except.bind] at h
  | ok r =>
    obtain ⟨⟨t, c⟩, d⟩ := r
    have hle := Resolving.nodeCount_le_of_outcome hrender ho
    have hpos := body.nodeCount_pos
    cases hv : config.verify c with
    | error p => simp [ho, hv, bind, Except.bind] at h
    | ok _ =>
      simp only [ho, hv, bind, Except.bind, pure, Except.pure, Except.ok.injEq,
        Prod.mk.injEq] at h
      obtain ⟨_, _, rfl⟩ := h
      omega

/-- A union finds at most the schemas inside its alternatives. -/
theorem nodeCount_le_of_makeUnion {config : Config} {namespaceName : String}
    {registry : Registry} {group : UnionGroup} {u : DerivedUnion} {found : Discovered}
    (h : makeUnion config namespaceName registry group = .ok (some (u, found))) :
    found.nodeCount ≤ Schema.countAll group.variants - group.variants.length := by
  unfold makeUnion at h
  cases ho : (DerivedUnion.derive registry group namespaceName).outcome with
  | error p => simp [ho, bind, Except.bind] at h
  | ok r =>
    obtain ⟨derived, d⟩ := r
    have hle := Resolving.nodeCount_le_of_outcome
      (Resolving.finds_derive registry group namespaceName) ho
    cases derived with
    | none => simp [ho, bind, Except.bind, pure, Except.pure] at h
    | some derived =>
      simp only [ho, bind, Except.bind] at h
      split at h
      · simp at h
      · simp only [pure, Except.pure, Except.ok.injEq, Option.some.injEq, Prod.mk.injEq] at h
        obtain ⟨_, rfl⟩ := h
        exact hle

theorem nodeCount_work_generateNamed (config : Config) (namespaceName : String) (run : ModelRun)
    (key : String) (declared body : Schema) :
    (generateNamed config namespaceName run key declared body).work.nodeCount
      < run.work.nodeCount + body.nodeCount := by
  have hpos := body.nodeCount_pos
  unfold generateNamed
  simp only
  split
  · omega
  · split
    · rename_i h
      have := nodeCount_lt_of_makeNamed h
      simp only [work_addNamed, work_claim, Discovered.nodeCount_append]
      omega
    · simp only [work_note, work_release, work_claim]
      omega

theorem nodeCount_work_generateUnion (config : Config) (namespaceName : String) (run : ModelRun)
    (group : UnionGroup) :
    (generateUnion config namespaceName run group).work.nodeCount
      ≤ run.work.nodeCount + Schema.countAll group.variants := by
  unfold generateUnion
  split
  · rename_i h
    have := nodeCount_le_of_makeUnion h
    simp only [work_addUnion, Discovered.nodeCount_append]
    omega
  · omega
  · simp only [work_note]
    omega

end ModelRun

end ApiForge
