import ApiForge.Proofs.ClientAccount
import ApiForge.Proofs.Planning

/-!
Operations and clients that are left out. An operation without an answer of success, or with a
problem, is planned like any other and then given up; a client that is not well-formed code is
written and then given up. Main statement: a document without such operations, or without the paths
of such a client, has the same clients as before, and lacks nothing but their problems
(`skipped_leave_no_trace`).
-/

namespace ApiForge

open Client

namespace Client

/-- Whether an operation is left out: it has no answer of success, or it cannot be planned. -/
def isSkipped (info : Info) (e : Endpoint) : Bool :=
  (selectResponse e.operation.responses).isNone || (planProblem? info e).isSome

theorem isSkipped_eq_not_isPlanned (info : Info) (e : Endpoint) :
    isSkipped info e = !isPlanned info e := by
  cases hselect : selectResponse e.operation.responses with
  | none =>
    rw [isSkipped, hselect, not_isPlanned hselect]
    rfl
  | some answer =>
    have hne : selectResponse e.operation.responses ≠ none := by
      rw [hselect]
      exact Option.some_ne_none answer
    rw [isSkipped, hselect, Option.isNone_some, Bool.false_or]
    rcases ho : (planMethod info e).outcome with p | ⟨_ | m, found⟩
    · simp [planProblem?, isPlanned, ho]
    · rcases @planned_or_problem info e hne with h | ⟨p, h⟩
      · simp [isPlanned, ho] at h
      · rw [ho] at h
        cases h
    · simp [planProblem?, isPlanned, ho]

/-- An operation cannot be planned exactly when something stands in its way. -/
theorem planProblem?_eq_obstacle? (info : Info) (e : Endpoint) :
    planProblem? info e = e.obstacle? := by
  have hproblem : planProblem? info e = problemOf (planMethod info e).outcome := by
    rw [planProblem?]
    cases (planMethod info e).outcome <;> rfl
  rw [hproblem, (ends_planMethod info e).outcome]

theorem code_alone (m : Method) (emitMetadata : Bool) :
    m.alone.code emitMetadata = m.code emitMetadata := rfl

theorem clientCode_alone (namespaceName name segment : String) (emitMetadata : Bool)
    (methods : List Method) :
    clientCode namespaceName name segment emitMetadata (methods.map Method.alone) =
      clientCode namespaceName name segment emitMetadata methods := by
  simp only [clientCode, List.map_map, Function.comp_def, code_alone]

theorem referencesOf_alone (client : String) (methods : List Method) :
    referencesOf client (methods.map Method.alone) = referencesOf client methods := by
  rw [referencesOf, List.flatMap_map]
  rfl

namespace Workshop

variable (info : Info)

/-- The workshop with every method about its operation alone. -/
def alone (w : Workshop) : Workshop := { w with methods := w.methods.map Method.alone }

theorem alone_addEndpoint (w : Workshop) (e : Endpoint) :
    (w.addEndpoint info e).alone = w.alone.addEndpoint info e.alone := by
  have hnames : (w.methods.map Method.alone).map (·.name) = w.methods.map (·.name) := by
    rw [List.map_map]
    rfl
  unfold addEndpoint
  rw [outcome_planMethod_alone]
  rcases (planMethod info e).outcome with p | ⟨_ | m, found⟩
  · rfl
  · rfl
  · simp only [Except.map, Option.map_some, alone, addMethod, hnames, List.map_append,
      List.map_cons, List.map_nil]
    rfl

theorem alone_foldl (endpoints : List Endpoint) (w : Workshop) :
    (endpoints.foldl (addEndpoint info) w).alone =
      (endpoints.map Endpoint.alone).foldl (addEndpoint info) w.alone := by
  induction endpoints generalizing w with
  | nil => rfl
  | cons e rest ih => rw [List.foldl_cons, ih, alone_addEndpoint, List.map_cons, List.foldl_cons]

/-- An operation without a method leaves nothing but its problem. -/
theorem foldl_filter_isPlanned (endpoints : List Endpoint) {w v : Workshop}
    (hmethods : w.methods = v.methods) (hfound : w.found = v.found) :
    ((endpoints.filter (isPlanned info)).foldl (addEndpoint info) w).methods =
        (endpoints.foldl (addEndpoint info) v).methods ∧
      ((endpoints.filter (isPlanned info)).foldl (addEndpoint info) w).found =
        (endpoints.foldl (addEndpoint info) v).found := by
  induction endpoints generalizing w v with
  | nil => exact ⟨hmethods, hfound⟩
  | cons e rest ih =>
    rw [List.filter_cons]
    rcases ho : (planMethod info e).outcome with p | ⟨_ | m, found⟩
    · rw [if_neg (by simp [isPlanned, ho])]
      exact ih (by simp [addEndpoint, ho, hmethods]) (by simp [addEndpoint, ho, hfound])
    · rw [if_neg (by simp [isPlanned, ho])]
      exact ih (by simp [addEndpoint, ho, hmethods]) (by simp [addEndpoint, ho, hfound])
    · rw [if_pos (by simp [isPlanned, ho])]
      exact ih (by simp [addEndpoint, addMethod, ho, hmethods])
        (by simp [addEndpoint, ho, hfound])

end Workshop

end Client

/-! A document without the operations that are left out. -/

/-- The operations of a path of which a method is made. -/
def PathItem.withoutSkipped (info : Info) (path : String) (item : PathItem) : PathItem :=
  { item with declared := item.operations.filter fun o =>
      !isSkipped info ⟨path, item, o.1, o.2⟩ }

/-- The document without the operations that are left out. All paths are kept. -/
def Document.withoutSkipped (d : Document) : Document :=
  { d with paths := d.paths.map fun p => (p.1, p.2.withoutSkipped d.info p.1) }

/-- A table whose keys come in the order of some list holds what is looked up along the list. -/
theorem filterMap_lookup {α β : Type} [BEq α] [LawfulBEq α] {keys : List α} {t : List (α × β)}
    (h : (t.map Prod.fst).Sublist keys) (hkeys : keys.Nodup) :
    keys.filterMap (fun key => (t.lookup key).map (key, ·)) = t := by
  induction keys generalizing t with
  | nil =>
    have hnil : t.map Prod.fst = [] := List.sublist_nil.mp h
    rw [List.map_eq_nil_iff.mp hnil]
    rfl
  | cons key rest ih =>
    obtain ⟨hkey, hrest⟩ := List.nodup_cons.mp hkeys
    rw [List.filterMap_cons]
    cases t with
    | nil =>
      have hnone := ih (t := ([] : List (α × β))) (List.nil_sublist rest) hrest
      exact hnone
    | cons p t =>
      rcases List.sublist_cons_iff.mp h with h | ⟨l, heq, h⟩
      · have hne : (p :: t).lookup key = none := by
          rw [List.lookup_eq_none_iff]
          intro q hq
          have hmem : q.1 ∈ rest := h.subset (List.mem_map_of_mem hq)
          rw [bne_iff_ne]
          rintro rfl
          exact hkey hmem
        rw [hne]
        exact ih h hrest
      · obtain ⟨rfl, rfl⟩ := List.cons.inj heq
        have hhead : (p :: t).lookup p.1 = some p.2 := by
          rw [List.lookup_cons, beq_self_eq_true]
        rw [hhead, Option.map_some]
        dsimp only
        refine congrArg (p :: ·) ?_
        refine (List.filterMap_congr fun key' hmem => ?_).trans (ih h hrest)
        have hne : (key' == p.1) = false := by
          rw [beq_eq_false_iff_ne]
          rintro rfl
          exact hkey hmem
        rw [List.lookup_cons, hne]

theorem PathItem.operations_withoutSkipped (info : Info) (path : String) (item : PathItem) :
    (item.withoutSkipped info path).operations =
      item.operations.filter fun o => !isSkipped info ⟨path, item, o.1, o.2⟩ :=
  filterMap_lookup ((List.filter_sublist.map Prod.fst).trans item.verbs_sublist) (by decide)

theorem endpointsOf_withoutSkipped (info : Info) (path : String) (item : PathItem) :
    (endpointsOf path (item.withoutSkipped info path)).map Endpoint.alone =
      ((endpointsOf path item).filter (isPlanned info)).map Endpoint.alone := by
  rw [endpointsOf, item.operations_withoutSkipped info path, endpointsOf, List.filter_map,
    List.map_map, List.map_map]
  have hkeep : (fun o : Verb × Operation => !isSkipped info ⟨path, item, o.1, o.2⟩) =
      isPlanned info ∘ fun o => ⟨path, item, o.1, o.2⟩ := by
    funext o
    rw [isSkipped_eq_not_isPlanned, Bool.not_not]
    rfl
  rw [hkeep]
  rfl

namespace Document

variable {config : Config} {d : Document}

theorem endpointsUnder_withoutSkipped (segment : String) :
    (d.withoutSkipped.endpointsUnder segment).map Endpoint.alone =
      ((d.endpointsUnder segment).filter (isPlanned d.info)).map Endpoint.alone := by
  have hendpoints : d.withoutSkipped.endpoints.map Endpoint.alone =
      (d.endpoints.filter (isPlanned d.info)).map Endpoint.alone := by
    rw [endpoints, withoutSkipped, List.flatMap_map, endpoints, List.filter_flatMap,
      List.map_flatMap, List.map_flatMap]
    exact List.flatMap_congr fun p _ => endpointsOf_withoutSkipped d.info p.1 p.2
  have hpath : (fun e : Endpoint => decide (firstSegment e.path = segment)) =
      (fun e => decide (firstSegment e.path = segment)) ∘ Endpoint.alone := rfl
  rw [endpointsUnder, endpointsUnder, List.filter_filter, hpath, ← List.filter_map, hendpoints]
  rw [List.filter_map, ← hpath, List.filter_filter]
  refine congrArg (List.map Endpoint.alone) (List.filter_congr fun e _ => ?_)
  exact Bool.and_comm _ _

theorem workshop_withoutSkipped (segment : String) :
    (d.withoutSkipped.workshop segment).methods.map Method.alone =
        (d.workshop segment).methods.map Method.alone ∧
      (d.withoutSkipped.workshop segment).found = (d.workshop segment).found ∧
      (d.withoutSkipped.workshop segment).issues = [] := by
  have hfiltered : (d.withoutSkipped.workshop segment).alone =
      (((d.endpointsUnder segment).filter (isPlanned d.info)).foldl
        (Workshop.addEndpoint d.info) {}).alone := by
    rw [workshop, Workshop.alone_foldl, endpointsUnder_withoutSkipped, Workshop.alone_foldl]
    rfl
  obtain ⟨hmethods, hfound⟩ := Workshop.foldl_filter_isPlanned d.info (d.endpointsUnder segment)
    (w := {}) (v := {}) rfl rfl
  refine ⟨?_, (congrArg Workshop.found hfiltered).trans hfound,
    (congrArg Workshop.issues hfiltered).trans ?_⟩
  · exact (congrArg Workshop.methods hfiltered).trans
      (congrArg (List.map Method.alone) hmethods)
  · show (((d.endpointsUnder segment).filter (isPlanned d.info)).foldl
      (Workshop.addEndpoint d.info) {}).issues = []
    rw [Workshop.issues_foldl, List.nil_append, List.filterMap_eq_nil_iff]
    intro e he
    have hplanned := (List.mem_filter.mp he).2
    rw [isPlanned] at hplanned
    rw [planProblem?]
    split at hplanned
    · next h => rw [h]
    · cases hplanned

def planProblems (d : Document) : List Problem := d.endpoints.filterMap (planProblem? d.info)

theorem unparsableUnit_notMem_planProblems : .unparsableUnit ∉ d.planProblems := by
  intro h
  obtain ⟨e, _, he⟩ := List.mem_filterMap.mp h
  rw [planProblem?_eq_obstacle?] at he
  exact Endpoint.obstacle?_ne_unparsableUnit he rfl

theorem issues_workshop_subset (segment : String) :
    (d.workshop segment).issues ⊆ d.planProblems := by
  rw [workshop, Workshop.issues_foldl, List.nil_append]
  intro p hp
  obtain ⟨e, he, hproblem⟩ := List.mem_filterMap.mp hp
  exact List.mem_filterMap.mpr ⟨e, (mem_endpointsUnder.mp he).1, hproblem⟩

end Document

namespace Clients

/-- The clients with only the problems that are not among some. -/
def without (problems : List Problem) (c : Clients) : Clients :=
  { c with issues := c.issues.filter (· ∉ problems) }

/-- The clients apart from their problems. -/
def quiet (c : Clients) : Clients := { c with issues := [] }

variable {config : Config} {namespaceName name segment : String}

/-- What a client adds does not depend on the other operations of a path. -/
theorem addClient_congr {w v : Workshop} (c : Clients)
    (hmethods : w.methods.map Method.alone = v.methods.map Method.alone)
    (hfound : w.found = v.found) :
    addClient config namespaceName name segment c w =
      addClient config namespaceName name segment c v := by
  have hcode := congrArg (clientCode namespaceName name segment config.emitMetadata) hmethods
  rw [clientCode_alone, clientCode_alone] at hcode
  have hreferences := congrArg (referencesOf name) hmethods
  rw [referencesOf_alone, referencesOf_alone] at hreferences
  have hlength := congrArg List.length hmethods
  rw [List.length_map, List.length_map] at hlength
  rw [addClient, addClient, hcode, hreferences, hlength, hfound]

theorem without_addClient {problems : List Problem} (h : .unparsableUnit ∉ problems) (c : Clients)
    (w : Workshop) :
    (addClient config namespaceName name segment c w).without problems =
      addClient config namespaceName name segment (c.without problems) w := by
  unfold addClient
  dsimp only
  rcases hverify : config.verify (clientCode namespaceName name segment config.emitMetadata
    w.methods) with p | ⟨⟩
  · obtain ⟨_, rfl⟩ := Config.verify_eq_error_iff.mp hverify
    simp [without, List.filter_append, h]
  · rfl

end Clients

namespace Client

/-- The segments met so far, with one more. -/
def meet (segments : List String) (segment : String) : List String :=
  if segment ∈ segments then segments else segments ++ [segment]

theorem keys_bySegment (paths : Entries PathItem) :
    (bySegment paths).keys = (paths.map fun p => firstSegment p.1).foldl meet [] := by
  have hfold : ∀ (ps : List (String × PathItem)) (groups : Entries (List Endpoint)),
      (ps.foldl takePath groups).keys =
        (ps.map fun p => firstSegment p.1).foldl meet groups.keys := by
    intro ps
    induction ps with
    | nil => exact fun _ => rfl
    | cons p rest ih =>
      intro groups
      rw [List.foldl_cons, ih, takePath, Entries.keys_put, List.map_cons, List.foldl_cons, meet]
  exact hfold paths []

theorem meet_filter (segment name : String) (met : List String) :
    (meet met name).filter (· ≠ segment) =
      if name = segment then met.filter (· ≠ segment)
      else meet (met.filter (· ≠ segment)) name := by
  by_cases hname : name = segment
  · subst hname
    by_cases hmet : name ∈ met <;> simp [meet, hmet]
  · by_cases hmet : name ∈ met <;> simp [meet, hname, hmet]

theorem foldl_meet_filter (segment : String) (names met : List String) :
    (names.filter (· ≠ segment)).foldl meet (met.filter (· ≠ segment)) =
      (names.foldl meet met).filter (· ≠ segment) := by
  induction names generalizing met with
  | nil => rfl
  | cons name rest ih =>
    rw [List.foldl_cons, ← ih, meet_filter, List.filter_cons]
    by_cases hname : name = segment
    · rw [if_pos hname, if_neg (by simpa using hname)]
    · rw [if_neg hname, if_pos (by simpa using hname), List.foldl_cons]

end Client

namespace Document

variable {config : Config} {d : Document}

theorem segments_withoutSkipped : d.withoutSkipped.segments = d.segments := by
  rw [segments, segments, keys_bySegment, keys_bySegment, withoutSkipped, List.map_map]
  rfl

theorem takeSegment_withoutSkipped (c : Clients) (segment : String) :
    takeSegment config d.withoutSkipped (c.without d.planProblems) segment =
      (takeSegment config d c segment).without d.planProblems := by
  obtain ⟨hmethods, hfound, hissues⟩ := @workshop_withoutSkipped d segment
  have hnoted : ({ c with issues := c.issues ++ (d.workshop segment).issues } : Clients).without
      d.planProblems = c.without d.planProblems := by
    have hfilter : (d.workshop segment).issues.filter (· ∉ d.planProblems) = [] := by
      rw [List.filter_eq_nil_iff]
      intro p hp
      simpa using issues_workshop_subset segment hp
    rw [Clients.without, List.filter_append, hfilter, List.append_nil]
    rfl
  have hunnoted : ({ c.without d.planProblems with
      issues := (c.without d.planProblems).issues ++ (d.withoutSkipped.workshop segment).issues } :
        Clients) = c.without d.planProblems := by
    rw [hissues, List.append_nil]
  calc takeSegment config d.withoutSkipped (c.without d.planProblems) segment
      = Clients.addClient config d.info.namespaceName (d.info.clientName segment) segment
          (c.without d.planProblems) (d.withoutSkipped.workshop segment) :=
        congrArg (fun c => Clients.addClient config d.info.namespaceName
          (d.info.clientName segment) segment c (d.withoutSkipped.workshop segment)) hunnoted
    _ = Clients.addClient config d.info.namespaceName (d.info.clientName segment) segment
          (c.without d.planProblems) (d.workshop segment) :=
        Clients.addClient_congr _ hmethods hfound
    _ = (takeSegment config d c segment).without d.planProblems := by
        rw [← hnoted, ← Clients.without_addClient unparsableUnit_notMem_planProblems]
        rfl

/-- Without the operations that are left out, only the problems of these are gone. -/
theorem generate_withoutSkipped :
    Clients.generate config d.withoutSkipped =
      (Clients.generate config d).without d.planProblems := by
  have hfold : ∀ (names : List String) (c : Clients),
      names.foldl (takeSegment config d.withoutSkipped) (c.without d.planProblems) =
        (names.foldl (takeSegment config d) c).without d.planProblems := by
    intro names
    induction names with
    | nil => exact fun _ => rfl
    | cons segment rest ih =>
      intro c
      rw [List.foldl_cons, takeSegment_withoutSkipped, ih, List.foldl_cons]
  rw [generate_eq, generate_eq, segments_withoutSkipped, ← hfold]
  rfl

/-! A document without the paths of a client. -/

/-- The document without the paths that begin with a segment. -/
def withoutSegment (d : Document) (segment : String) : Document :=
  { d with paths := d.paths.filter fun p => firstSegment p.1 ≠ segment }

theorem segments_withoutSegment (segment : String) :
    (d.withoutSegment segment).segments = d.segments.filter (· ≠ segment) := by
  rw [segments, segments, keys_bySegment, keys_bySegment, withoutSegment,
    ← foldl_meet_filter segment _ [], List.filter_map]
  rfl

theorem endpointsUnder_withoutSegment {segment other : String} (h : other ≠ segment) :
    (d.withoutSegment segment).endpointsUnder other = d.endpointsUnder other := by
  rw [endpointsUnder, endpointsUnder, endpoints, endpoints, withoutSegment, List.filter_flatMap,
    List.filter_flatMap]
  simp only [filter_endpointsOf]
  induction d.paths with
  | nil => rfl
  | cons p rest ih =>
    rw [List.filter_cons, List.flatMap_cons]
    by_cases hp : firstSegment p.1 = segment
    · have hother : firstSegment p.1 ≠ other := fun he => h (he.symm.trans hp)
      rw [if_neg (by simpa using hp), if_neg hother, List.nil_append, ih]
    · rw [if_pos (by simpa using hp), List.flatMap_cons, ih]

theorem quiet_takeSegment (c : Clients) (segment : String) :
    (takeSegment config d c segment).quiet = (takeSegment config d c.quiet segment).quiet := by
  by_cases h : d.accepts config (d.plannedClient segment) = true
  · rw [takeSegment_of_accepts c h, takeSegment_of_accepts c.quiet h]
    rfl
  · rw [takeSegment_of_rejects c h, takeSegment_of_rejects c.quiet h]
    rfl

theorem quiet_foldl_takeSegment (segments : List String) (c : Clients) :
    (segments.foldl (takeSegment config d) c).quiet =
      (segments.foldl (takeSegment config d) c.quiet).quiet := by
  induction segments generalizing c with
  | nil => rfl
  | cons segment rest ih =>
    rw [List.foldl_cons, ih, quiet_takeSegment, ← ih, List.foldl_cons]

theorem quiet_foldl_withoutSegment {segment : String}
    (h : ¬ d.accepts config (d.plannedClient segment) = true) (names : List String)
    (c : Clients) :
    ((names.filter (· ≠ segment)).foldl (takeSegment config (d.withoutSegment segment)) c).quiet =
      (names.foldl (takeSegment config d) c).quiet := by
  induction names generalizing c with
  | nil => rw [List.filter_nil, List.foldl_nil, List.foldl_nil]
  | cons name rest ih =>
    rw [List.filter_cons, List.foldl_cons]
    by_cases hname : name = segment
    · have hdrop : ¬ decide (name ≠ segment) = true := by simpa using hname
      have hquiet : (takeSegment config d c name).quiet = c.quiet := by
        rw [hname, takeSegment_of_rejects c h]
        rfl
      rw [if_neg hdrop, ih, quiet_foldl_takeSegment, ← hquiet, ← quiet_foldl_takeSegment]
    · have hkeep : decide (name ≠ segment) = true := by simpa using hname
      have hsame : takeSegment config (d.withoutSegment segment) c name =
          takeSegment config d c name := by
        rw [takeSegment, endpointsUnder_withoutSegment hname]
        rfl
      rw [if_pos hkeep, List.foldl_cons, ih, hsame]

/-- A document without the operations that are left out has the same clients as before, and of the
problems only those of operations are gone. Without the paths of a client that is not well-formed
code, nothing but problems is gone. What is planned of an operation does not depend on the names
given out before, and planning it, even in vain, leaves no name behind that the derivation would not
give. -/
theorem skipped_leave_no_trace (config : Config) (d : Document) :
    Clients.generate config d.withoutSkipped =
      { Clients.generate config d with
        issues := (Clients.generate config d).issues.filter (· ∉ d.planProblems) } ∧
    .unparsableUnit ∉ d.planProblems ∧
    (∀ segment, d.accepts config (d.plannedClient segment) = false →
      Clients.generate config (d.withoutSegment segment) =
        { Clients.generate config d with
          issues := (Clients.generate config (d.withoutSegment segment)).issues }) ∧
    ∀ (e : Endpoint) (names : Name.ClassNames), names.Faithful →
      ((planMethod d.info e).start names).1 = (planMethod d.info e).outcome ∧
        ((planMethod d.info e).start names).2.Faithful := by
  refine ⟨generate_withoutSkipped, unparsableUnit_notMem_planProblems, fun segment h => ?_,
    fun e names hnames => (steady_planMethod d.info e).start hnames⟩
  have hquiet : (Clients.generate config (d.withoutSegment segment)).quiet =
      (Clients.generate config d).quiet := by
    rw [generate_eq, generate_eq, segments_withoutSegment]
    exact quiet_foldl_withoutSegment (by simp [h]) d.segments _
  generalize Clients.generate config (d.withoutSegment segment) = c at hquiet ⊢
  generalize Clients.generate config d = c' at hquiet ⊢
  cases c
  cases c'
  cases hquiet
  rfl

/-! A path with an operation that is planned, one without an answer of success, and one with a
parameter of an unknown kind. -/

def mixedUsers : Document where
  openapi := "3.0.0"
  info := { title := "Test", version := "1.0" }
  paths := [("/users", { declared := [
      (.get, { responses := [("200", {})] }),
      (.post, { responses := [("404", {})] }),
      (.put, {
        parameters := [
          { name := "id", location := "query", schema := some (.node {} .untyped) },
          { name := "photo", location := "query"
            schema := some (.node {} (.primitive "file" none)) }]
        responses := [("200", {})] })] }),
    ("/orders", .answering .get)]

theorem mixedUsers_traceless :
    mixedUsers.endpoints.length = 4 ∧ mixedUsers.withoutSkipped.endpoints.length = 2 ∧
      (Clients.generate .unchecked mixedUsers).issues = [.unsupportedSchemaKind "file" "photo"] ∧
      (Clients.generate .unchecked mixedUsers.withoutSkipped).issues = [] ∧
      (Clients.generate .unchecked mixedUsers.withoutSkipped).units =
        (Clients.generate .unchecked mixedUsers).units ∧
      mixedUsers.accepts ModelRun.rejectingConfig (mixedUsers.plannedClient "users") = false ∧
      (Clients.generate ModelRun.rejectingConfig (mixedUsers.withoutSegment "users")).units =
        (Clients.generate ModelRun.rejectingConfig mixedUsers).units ∧
      (⟨[("user", "User")]⟩ : Name.ClassNames).Faithful ∧
      ∀ e ∈ mixedUsers.endpoints,
        ((planMethod mixedUsers.info e).start ⟨[("user", "User")]⟩).1 =
          (planMethod mixedUsers.info e).outcome := by
  obtain ⟨hskipped, _, _, hnames⟩ := skipped_leave_no_trace .unchecked mixedUsers
  obtain ⟨_, _, hsegment, _⟩ := skipped_leave_no_trace ModelRun.rejectingConfig mixedUsers
  have hissues : (Clients.generate .unchecked mixedUsers).issues =
      [.unsupportedSchemaKind "file" "photo"] := by decide
  have hproblems : mixedUsers.planProblems = [.unsupportedSchemaKind "file" "photo"] := by
    decide
  have hfaithful : (⟨[("user", "User")]⟩ : Name.ClassNames).Faithful := by
    unfold Name.ClassNames.Faithful
    decide
  refine ⟨by decide, by decide, hissues, ?_, ?_, rfl, ?_, hfaithful,
    fun e _ => (hnames e _ hfaithful).1⟩
  · rw [hskipped, hproblems, hissues]
    decide
  · rw [hskipped]
  · rw [hsegment "users" rfl]

end Document

end ApiForge
