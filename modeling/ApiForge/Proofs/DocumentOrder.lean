import ApiForge.Proofs.Dangling
import ApiForge.Proofs.FinishOrder
import ApiForge.Proofs.FirstWriter
import ApiForge.Proofs.Tasks
import Mathlib.Data.List.Flatten

/-!
The order of the schemas of a document. What waits is taken in an order that depends on that of the
document throughout, but where no name is derived twice, every piece of work leads to what it would
in a new run. So what is worked through is the same in every order, the schemas of the document with
all that they give rise to, and so is what it leads to. Main statement: `document_order_irrelevant`.
-/

namespace ApiForge

def WorkItem.task : WorkItem → Task
  | .schema p => .named ⟨p.key, p.schema, p.schema⟩
  | .union g => .union g

namespace ModelRun

variable {config : Config} {namespaceName : String} {run : ModelRun}

theorem perform_eq_task (run : ModelRun) (item : WorkItem) :
    run.perform config namespaceName item = item.task.perform config namespaceName run := by
  cases item <;> rfl

/-! What waits. -/

/-- The work that waits, of both kinds. -/
def queue (run : ModelRun) : List Task :=
  run.pending.map (fun p => (WorkItem.schema p).task) ++
    run.unions.map fun g => (WorkItem.union g).task

theorem queue_append (run more : ModelRun) :
    (run ++ more).queue.Perm (run.queue ++ more.queue) := by
  show (run.append more).queue.Perm _
  simp only [queue, append, List.map_append, List.append_assoc]
  refine List.Perm.append_left _ ?_
  simp only [← List.append_assoc]
  exact List.perm_append_comm.append_right _

theorem nodeCount_work_start : ({} : ModelRun).work.nodeCount = 0 := rfl

def idle (run : ModelRun) : ModelRun := { run with pending := [], unions := [] }

/-- Taking a piece of work takes it from what waits and leaves the rest of the run alone. -/
theorem next?_spec {rest : ModelRun} {afterUnion : Bool} {item : WorkItem}
    (h : run.next? afterUnion = some (item, rest)) :
    run.queue.Perm (item.task :: rest.queue) ∧ rest.idle = run.idle := by
  rcases next?_cases h with ⟨p, ps, hp, rfl, rfl⟩ | ⟨g, gs, hg, rfl, rfl⟩
  · refine ⟨?_, rfl⟩
    simp [queue, hp]
  · refine ⟨?_, rfl⟩
    simp [queue, hg, List.perm_middle]

end ModelRun

namespace Task

variable (config : Config) (namespaceName : String)

/-- The number of schemas in a piece of work, where a union counts as one more. -/
def size : Task → Nat
  | named c => c.body.nodeCount
  | union g => Schema.countAll g.variants + 1

theorem nodeCount_le_countAll {s : Schema} {l : List Schema} (h : s ∈ l) :
    s.nodeCount ≤ Schema.countAll l := by
  obtain ⟨front, back, rfl⟩ := List.append_of_mem h
  rw [Schema.countAll_append, Schema.countAll_cons]
  omega

theorem size_union_le {g : UnionGroup} {gs : List UnionGroup} (h : g ∈ gs) :
    (union g).size ≤ Schema.countAll (gs.flatMap (·.variants)) + gs.length := by
  obtain ⟨front, back, rfl⟩ := List.append_of_mem h
  rw [List.flatMap_append, List.flatMap_cons, Schema.countAll_append, Schema.countAll_append,
    List.length_append, List.length_cons, size]
  omega

theorem size_le_of_mem_queue {run : ModelRun} {t : Task} (h : t ∈ run.queue) :
    t.size ≤ run.work.nodeCount := by
  rcases List.mem_append.mp h with h | h
  · obtain ⟨p, hp, rfl⟩ := List.mem_map.mp h
    have hle : p.schema.nodeCount ≤ Schema.countAll (run.pending.map (·.schema)) :=
      nodeCount_le_countAll (List.mem_map_of_mem hp)
    exact Nat.le_trans hle (Nat.le_add_right _ _)
  · obtain ⟨g, hg, rfl⟩ := List.mem_map.mp h
    exact Nat.le_trans (size_union_le hg) (Nat.le_add_left _ _)

/-- What a piece of work gives rise to is smaller. -/
theorem size_lt_of_mem_queue_alone {t s : Task} (h : s ∈ (t.alone config namespaceName).queue) :
    s.size < t.size := by
  refine Nat.lt_of_le_of_lt (size_le_of_mem_queue h) ?_
  cases t with
  | named c =>
    have hlt :=
      ModelRun.nodeCount_work_generateNamed config namespaceName {} c.key c.declared c.body
    rwa [ModelRun.nodeCount_work_start, Nat.zero_add] at hlt
  | union g =>
    have hle := ModelRun.nodeCount_work_generateUnion config namespaceName {} g
    rw [ModelRun.nodeCount_work_start, Nat.zero_add] at hle
    exact Nat.lt_succ_of_le hle

/-- A piece of work with everything that it gives rise to. -/
def closure (t : Task) : List Task :=
  t :: (t.alone config namespaceName).queue.attach.flatMap fun ⟨s, _⟩ => closure s
termination_by t.size
decreasing_by exact size_lt_of_mem_queue_alone config namespaceName ‹_›

theorem closure_eq (t : Task) :
    t.closure config namespaceName =
      t :: (t.alone config namespaceName).queue.flatMap (closure config namespaceName) := by
  rw [closure]
  refine congrArg (t :: ·) ?_
  rw [List.flatMap_subtype fun _ _ => rfl, List.unattach_attach]

end Task

namespace ModelRun

/-! What pieces of work lead to together. -/

/-- What some pieces of work lead to, each in a new run, without the work that waits. -/
def gather (config : Config) (namespaceName : String) (ts : List Task) : ModelRun where
  registry := ⟨ts.flatMap fun t => (t.alone config namespaceName).registry.names⟩
  forward := ts.flatMap fun t => (t.alone config namespaceName).forward
  notes := ts.flatMap fun t => (t.alone config namespaceName).notes
  units := ts.flatMap fun t => (t.alone config namespaceName).units
  types := ts.flatMap fun t => (t.alone config namespaceName).types
  plans := ts.flatMap fun t => (t.alone config namespaceName).plans
  issues := ts.flatMap fun t => (t.alone config namespaceName).issues

variable {config : Config} {namespaceName : String} {run : ModelRun} {ts : List Task}

theorem gather_concat (ts : List Task) (t : Task) :
    gather config namespaceName (ts ++ [t]) =
      gather config namespaceName ts ++ (t.alone config namespaceName).idle := by
  show _ = (gather config namespaceName ts).append _
  simp [gather, append, idle]

theorem idle_append (run more : ModelRun) : (run ++ more).idle = run.idle ++ more.idle := by
  show (run.append more).idle = run.idle.append more.idle
  simp [append, idle]

theorem gather_perm {us : List Task} (h : ts.Perm us) :
    (gather config namespaceName ts).Reordered (gather config namespaceName us) :=
  ⟨h.flatMap_right _, h.flatMap_right _, h.flatMap_right _, h.flatMap_right _, h.flatMap_right _,
    h.flatMap_right _, h.flatMap_right _⟩

/-- Everything that pieces of work lead to has its name from them. -/
theorem within_gather (config : Config) (namespaceName : String)
    (hnodup : (ts.flatMap Task.names).Nodup) :
    (gather config namespaceName ts).Within (ts.flatMap Task.names) := by
  have halone : ∀ t ∈ ts, (t.alone config namespaceName).Within t.names :=
    fun t ht => within_alone ((List.nodup_flatMap.mp hnodup).1 t ht)
  constructor
  case registry => exact List.Sublist.flatMap_right ts fun t ht => (halone t ht).registry
  case notes =>
    rw [Entries.keys, gather, List.map_flatMap]
    exact List.Sublist.flatMap_right ts fun t ht => (halone t ht).notes
  case units =>
    rw [Entries.keys, gather, List.map_flatMap]
    exact List.Sublist.flatMap_right ts fun t ht => (halone t ht).units
  case types =>
    rw [typeNames, gather, List.filterMap_flatMap]
    exact List.Sublist.flatMap_right ts fun t ht => (halone t ht).types

/-- But for the work that waits, the run is what some pieces of work lead to. -/
def Gathers (config : Config) (namespaceName : String) (run : ModelRun) (ts : List Task) : Prop :=
  run.idle = gather config namespaceName ts

theorem Gathers.apart (h : Gathers config namespaceName run ts) {names : List String}
    (hnodup : (ts.flatMap Task.names ++ names).Nodup) : run.Apart names := by
  obtain ⟨hts, _, hcross⟩ := List.nodup_append.mp hnodup
  have hwithin : run.idle.Within (ts.flatMap Task.names) := by
    rw [h]
    exact within_gather config namespaceName hts
  constructor
  case registry => exact fun n hn hmem => hcross n (hwithin.registry.subset hmem) n hn rfl
  case notes => exact fun n hn hmem => hcross n (hwithin.notes.subset hmem) n hn rfl
  case units => exact fun n hn hmem => hcross n (hwithin.units.subset hmem) n hn rfl

/-- A piece of work whose names are new adds what it leads to in a new run. -/
theorem Gathers.perform (h : Gathers config namespaceName run ts) {t : Task}
    (hnodup : ((ts ++ [t]).flatMap Task.names).Nodup) :
    t.perform config namespaceName run = run ++ t.alone config namespaceName ∧
      Gathers config namespaceName (t.perform config namespaceName run) (ts ++ [t]) := by
  rw [List.flatMap_append, List.flatMap_singleton] at hnodup
  have hadds : t.perform config namespaceName run = run ++ t.alone config namespaceName :=
    perform_of_apart (h.apart hnodup) (List.nodup_append.mp hnodup).2.1
  refine ⟨hadds, ?_⟩
  rw [Gathers, hadds, idle_append, h, gather_concat]

/-! One piece of work after the other. -/

/-- Pieces of work one after the other, with what they give rise to added to what waits. -/
theorem Gathers.performAll (h : Gathers config namespaceName run ts) (us : List Task)
    (hnodup : ((ts ++ us).flatMap Task.names).Nodup) :
    Gathers config namespaceName
        (us.foldl (fun run t => t.perform config namespaceName run) run) (ts ++ us) ∧
      (us.foldl (fun run t => t.perform config namespaceName run) run).queue.Perm
        (run.queue ++ us.flatMap fun t => (t.alone config namespaceName).queue) := by
  induction us generalizing run ts with
  | nil => simpa using h
  | cons t rest ih =>
    have hsplit : ts ++ t :: rest = ts ++ [t] ++ rest := by simp
    rw [hsplit] at hnodup ⊢
    have hfirst : ((ts ++ [t]).flatMap Task.names).Nodup := by
      rw [List.flatMap_append] at hnodup
      exact (List.nodup_append.mp hnodup).1
    obtain ⟨hadds, hgathers⟩ := h.perform hfirst
    obtain ⟨hall, hqueue⟩ := ih hgathers hnodup
    refine ⟨hall, hqueue.trans ?_⟩
    rw [hadds, List.flatMap_cons, ← List.append_assoc]
    exact (queue_append _ _).append_right _

theorem generateComponent_eq_foldl (run : ModelRun) (key : String) (schema : Schema) :
    generateComponent config namespaceName run key schema =
      ((componentCandidates config key schema).map Task.named).foldl
        (fun run t => t.perform config namespaceName run) run := by
  rw [generateComponent, componentCandidates]
  split
  · rfl
  · cases bodyOf schema <;> rfl

theorem takeDeclared_eq_foldl (run : ModelRun) (schemas : List (String × Schema)) :
    takeDeclared config namespaceName run schemas =
      ((declaredCandidates config schemas).map Task.named).foldl
        (fun run t => t.perform config namespaceName run) run := by
  induction schemas generalizing run with
  | nil => rfl
  | cons p rest ih =>
    obtain ⟨key, schema⟩ := p
    have hcandidates : declaredCandidates config ((key, schema) :: rest) =
        componentCandidates config key schema ++ declaredCandidates config rest := rfl
    rw [takeDeclared_cons, ih, hcandidates, List.map_append, List.foldl_append,
      generateComponent_eq_foldl]

/-- What `settle` works through, in order. -/
def settleTasks (config : Config) (namespaceName : String) (afterUnion : Bool) (run : ModelRun) :
    List Task :=
  match _h : run.next? afterUnion with
  | none => []
  | some (item, rest) =>
    item.task ::
      settleTasks config namespaceName (isUnion item) (rest.perform config namespaceName item)
termination_by run.work.nodeCount
decreasing_by exact nodeCount_work_of_next? _h config namespaceName

/-- What is worked through for the schemas of a document, in order: the schemas first, then what
they give rise to. -/
def processed (config : Config) (namespaceName : String) (schemas : List (String × Schema)) :
    List Task :=
  (declaredCandidates config schemas).map Task.named ++
    settleTasks config namespaceName false (takeDeclared config namespaceName {} schemas)

/-- What waits, with all that it gives rise to, is the piece of work that is taken and what waits
after it. -/
theorem closure_queue (config : Config) (namespaceName : String) {rest : ModelRun}
    {afterUnion : Bool} {item : WorkItem} (h : run.next? afterUnion = some (item, rest)) :
    (run.queue.flatMap (Task.closure config namespaceName)).Perm (item.task ::
      (rest ++ item.task.alone config namespaceName).queue.flatMap
        (Task.closure config namespaceName)) := by
  have hlater : ((rest ++ item.task.alone config namespaceName).queue.flatMap
      (Task.closure config namespaceName)).Perm
      ((item.task.alone config namespaceName).queue.flatMap (Task.closure config namespaceName) ++
        rest.queue.flatMap (Task.closure config namespaceName)) := by
    refine ((queue_append _ _).flatMap_right _).trans ?_
    rw [List.flatMap_append]
    exact List.perm_append_comm
  refine ((next?_spec h).1.flatMap_right _).trans ?_
  rw [List.flatMap_cons, Task.closure_eq, List.cons_append]
  exact hlater.symm.cons _

def NamesDiffer (ts : List Task) : Prop := (ts.flatMap Task.names).Nodup

instance (ts : List Task) : Decidable (NamesDiffer ts) :=
  inferInstanceAs (Decidable (ts.flatMap Task.names).Nodup)

theorem NamesDiffer.perm {us : List Task} (h : ts.Perm us) : NamesDiffer ts ↔ NamesDiffer us :=
  (h.flatMap_right Task.names).nodup_iff

theorem NamesDiffer.of_append {us : List Task} (h : NamesDiffer (ts ++ us)) : NamesDiffer ts := by
  rw [NamesDiffer, List.flatMap_append] at h
  exact (List.nodup_append.mp h).1

theorem NamesDiffer.append_cons_iff {t : Task} {us : List Task} :
    NamesDiffer (ts ++ t :: us) ↔ NamesDiffer (ts ++ [t] ++ us) := by
  rw [← List.append_cons]

/-- What is worked through is what waits with all that it gives rise to, provided that no name is
derived twice, which can be read off either. -/
theorem Gathers.settle (afterUnion : Bool) (run : ModelRun) :
    ∀ ts, Gathers config namespaceName run ts →
      NamesDiffer (ts ++ settleTasks config namespaceName afterUnion run) ∨
        NamesDiffer (ts ++ run.queue.flatMap (Task.closure config namespaceName)) →
      Gathers config namespaceName (settle config namespaceName afterUnion run)
          (ts ++ settleTasks config namespaceName afterUnion run) ∧
        (settleTasks config namespaceName afterUnion run).Perm
          (run.queue.flatMap (Task.closure config namespaceName)) := by
  induction afterUnion, run using ModelRun.settle.induct config namespaceName with
  | case1 afterUnion run hnone =>
    intro ts h _
    obtain ⟨hpending, hunions⟩ := next?_eq_none_iff.mp hnone
    have hqueue : run.queue = [] := by
      rw [queue, hpending, hunions]
      rfl
    rw [settleTasks, ModelRun.settle, hnone, hqueue]
    exact ⟨by simpa using h, .nil⟩
  | case2 afterUnion run item rest hnext ih =>
    intro ts h hnames
    have hrest : Gathers config namespaceName rest ts := (next?_spec hnext).2.trans h
    have hclosure := closure_queue config namespaceName hnext
    rw [settleTasks, hnext] at hnames
    rw [settleTasks, ModelRun.settle, hnext]
    dsimp only at hnames ⊢
    rw [perform_eq_task] at ih hnames ⊢
    -- Either way the piece of work that is taken comes first.
    rw [NamesDiffer.perm (hclosure.append_left ts), NamesDiffer.append_cons_iff,
      NamesDiffer.append_cons_iff] at hnames
    have hfirst : NamesDiffer (ts ++ [item.task]) :=
      hnames.elim NamesDiffer.of_append NamesDiffer.of_append
    obtain ⟨hadds, hgathers⟩ := hrest.perform hfirst
    rw [← hadds] at hclosure hnames
    obtain ⟨hsettled, hperm⟩ := ih (ts ++ [item.task]) hgathers hnames
    rw [List.append_cons ts]
    exact ⟨hsettled, (hperm.cons _).trans hclosure.symm⟩

/-- The schemas of a document that are taken up, with all that they give rise to. -/
def closures (config : Config) (namespaceName : String) (schemas : List (String × Schema)) :
    List Task :=
  ((declaredCandidates config schemas).map Task.named).flatMap (Task.closure config namespaceName)

theorem flatMap_closure_perm (config : Config) (namespaceName : String) (us : List Task) :
    (us.flatMap (Task.closure config namespaceName)).Perm
      (us ++ (us.flatMap fun t => (t.alone config namespaceName).queue).flatMap
        (Task.closure config namespaceName)) := by
  have hclosure : Task.closure config namespaceName = fun t => [t] ++
      (t.alone config namespaceName).queue.flatMap (Task.closure config namespaceName) :=
    funext (Task.closure_eq config namespaceName)
  have hparts := List.flatMap_append_perm us (fun t => [t]) fun t =>
    (t.alone config namespaceName).queue.flatMap (Task.closure config namespaceName)
  rw [List.flatMap_singleton', ← List.flatMap_assoc, ← hclosure] at hparts
  exact hparts.symm

/-- A run is what its pieces of work lead to, each in a new run, and these are the schemas of the
document with all that they give rise to, provided that no name is derived twice. -/
theorem gathers_generateComponents {schemas : Entries Schema}
    (hnames : NamesDiffer (processed config namespaceName schemas) ∨
      NamesDiffer (closures config namespaceName schemas)) :
    Gathers config namespaceName (generateComponents config namespaceName {} schemas)
        (processed config namespaceName schemas) ∧
      (processed config namespaceName schemas).Perm (closures config namespaceName schemas) := by
  rw [processed, closures, takeDeclared_eq_foldl] at hnames
  rw [generateComponents_eq, processed, closures, takeDeclared_eq_foldl]
  generalize (declaredCandidates config schemas).map Task.named = declared at hnames ⊢
  have hclosures := flatMap_closure_perm config namespaceName declared
  have hdeclared : NamesDiffer declared := by
    rcases hnames with hnames | hnames
    · exact hnames.of_append
    · exact ((NamesDiffer.perm hclosures).mp hnames).of_append
  have hstart : Gathers config namespaceName {} [] := rfl
  obtain ⟨hgathers, hqueue⟩ := hstart.performAll declared hdeclared
  generalize declared.foldl (fun run t => t.perform config namespaceName run) {} = run at *
  have hall : (declared.flatMap (Task.closure config namespaceName)).Perm
      (declared ++ run.queue.flatMap (Task.closure config namespaceName)) :=
    hclosures.trans ((hqueue.flatMap_right _).symm.append_left _)
  obtain ⟨hsettled, hperm⟩ := Gathers.settle false run declared hgathers
    (hnames.imp_right (NamesDiffer.perm hall).mp)
  exact ⟨hsettled, (hperm.append_left _).trans hall.symm⟩

/-- The end of a run is that of what its pieces of work lead to. -/
theorem Gathers.finish (h : Gathers config namespaceName run ts) :
    run.finish config = (gather config namespaceName ts).finish config := by
  rw [← h]
  rfl

/-- Where no name is derived twice, the order of the schemas of a document decides about nothing but
the order of the outcome. -/
theorem document_order_irrelevant {schemas permuted : Entries Schema}
    (hperm : permuted.Perm schemas)
    (hnames : NamesDiffer (processed config namespaceName schemas)) :
    ((generateComponents config namespaceName {} permuted).finish config).Reordered
      ((generateComponents config namespaceName {} schemas).finish config) := by
  have hclosures : (closures config namespaceName permuted).Perm
      (closures config namespaceName schemas) :=
    ((hperm.flatMap_right _).map _).flatMap_right _
  obtain ⟨hrun, hworked⟩ := gathers_generateComponents (.inl hnames)
  have hsame : NamesDiffer (closures config namespaceName permuted) :=
    (NamesDiffer.perm (hclosures.trans hworked.symm)).mpr hnames
  obtain ⟨hpermuted, hworked'⟩ := gathers_generateComponents (.inr hsame)
  have hprocessed : (processed config namespaceName permuted).Perm
      (processed config namespaceName schemas) := hworked'.trans (hclosures.trans hworked.symm)
  have hnodup := (NamesDiffer.perm hprocessed).mpr hnames
  have hwithin := within_gather config namespaceName hnodup
  rw [hpermuted.finish, hrun.finish]
  exact (gather_perm hprocessed).finish (hnodup.sublist hwithin.notes)
    (hnodup.sublist hwithin.types) config

def petsFirst : Entries Schema := [("Pet", petSchema), ("Question", questionSchema)]

theorem petsFirst_reordered :
    NamesDiffer (processed .unchecked "Demo" petsFirst) ∧
      ((generateComponents .unchecked "Demo" {} petsFirst.reverse).finish .unchecked).Reordered
        ((generateComponents .unchecked "Demo" {} petsFirst).finish .unchecked) := by
  have hnames : NamesDiffer (processed .unchecked "Demo" petsFirst) := by decide +kernel
  exact ⟨hnames, document_order_irrelevant petsFirst.reverse_perm hnames⟩

end ModelRun

end ApiForge
