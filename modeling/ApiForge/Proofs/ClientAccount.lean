import ApiForge.Proofs.ReadTables
import ApiForge.Proofs.Segment
import ApiForge.Proofs.Resolution
import Mathlib.Data.List.Perm.Basic

/-!
What becomes of the operations of a document in its clients. An operation has no answer of success,
or it cannot be planned, or its client is not well-formed code, or it has a method. Clients are kept
by their names, and two first segments may give their clients one name. The later client then takes
the place of the earlier one, whose methods are in no unit although they are counted. Main
statement: every operation is accounted for, and the count is right, exactly when no client with a
method is replaced (`operations_accounted_iff`).
-/

namespace ApiForge

open Client

/-- A client with the methods that were planned for it. -/
structure PlannedClient where
  name : String
  segment : String
  methods : List Method

/-- No client with a method gives its name to a later client. -/
def NamesKept (clients : List PlannedClient) : Prop :=
  clients.Pairwise fun a b => a.methods ≠ [] → a.name ≠ b.name

namespace Client

open Resolving

def isPlanned (info : Info) (e : Endpoint) : Bool :=
  match (planMethod info e).outcome with
  | .ok (some _, _) => true
  | _ => false

def planProblem? (info : Info) (e : Endpoint) : Option Problem :=
  match (planMethod info e).outcome with
  | .error p => some p
  | .ok _ => none

def Endpoint.wantedName (e : Endpoint) : String :=
  Name.snakeIdent (e.verb.word ++ Name.titleCase (Name.methodStem e.path))

/-- An operation with an answer of success gets a method that is about it and has the name it
wants. -/
theorem returns_planMethod (info : Info) (e : Endpoint) :
    Returns (planMethod info e) fun r =>
      (∀ m, r = some m → m.endpoint = e ∧ m.name = e.wantedName) ∧
        (r = none → selectResponse e.operation.responses = none) := by
  unfold planMethod
  split
  · next h =>
    apply Returns.pure
    exact ⟨fun m hm => absurd hm.symm (Option.some_ne_none m), fun _ => h⟩
  · apply Returns.bind
    intro given
    dsimp only
    split
    all_goals
      apply Returns.bind
      intro body
      rcases urlTemplate e.path _ with ⟨template, pathArguments⟩
      apply Returns.bind
      rintro ⟨payload, types⟩
      apply Returns.pure
      refine ⟨fun m hm => ?_, fun hnone => absurd hnone (Option.some_ne_none _)⟩
      rw [← Option.some.inj hm]
      refine ⟨rfl, ?_⟩
      rw [Endpoint.wantedName]

theorem endpoint_of_planMethod {info : Info} {e : Endpoint} {m : Method} {found : Discovered}
    (h : (planMethod info e).outcome = .ok (some m, found)) : m.endpoint = e :=
  (((returns_planMethod info e).of_outcome h).1 m rfl).1

theorem name_of_planMethod {info : Info} {e : Endpoint} {m : Method} {found : Discovered}
    (h : (planMethod info e).outcome = .ok (some m, found)) : m.name = e.wantedName :=
  (((returns_planMethod info e).of_outcome h).1 m rfl).2

/-- Only an operation without an answer of success comes without a method and without a problem. -/
theorem planned_or_problem {info : Info} {e : Endpoint}
    (h : selectResponse e.operation.responses ≠ none) :
    isPlanned info e = true ∨ ∃ p, (planMethod info e).outcome = .error p := by
  rcases ho : (planMethod info e).outcome with p | ⟨r, found⟩
  · exact .inr ⟨p, rfl⟩
  · cases r with
    | none => exact absurd (((returns_planMethod info e).of_outcome ho).2 rfl) h
    | some m => exact .inl (by simp [isPlanned, ho])

theorem not_isPlanned {info : Info} {e : Endpoint}
    (h : selectResponse e.operation.responses = none) : isPlanned info e = false := by
  have hplan : planMethod info e = pure none := by
    unfold planMethod
    rw [h]
  rw [isPlanned, hplan]
  rfl

namespace Workshop

variable (info : Info)

theorem endpoints_addMethod (w : Workshop) (m : Method) :
    (w.addMethod m).methods.map (·.endpoint) = w.methods.map (·.endpoint) ++ [m.endpoint] := by
  simp [addMethod]

/-- The methods are about the operations that can be planned, in order. -/
theorem endpoints_foldl (endpoints : List Endpoint) (w : Workshop) :
    (endpoints.foldl (addEndpoint info) w).methods.map (·.endpoint) =
      w.methods.map (·.endpoint) ++ endpoints.filter (isPlanned info) := by
  induction endpoints generalizing w with
  | nil => simp
  | cons e rest ih =>
    have hstep : (w.addEndpoint info e).methods.map (·.endpoint) =
        w.methods.map (·.endpoint) ++ [e].filter (isPlanned info) := by
      rcases ho : (planMethod info e).outcome with p | ⟨_ | m, found⟩
      · simp [addEndpoint, isPlanned, ho]
      · simp [addEndpoint, isPlanned, ho]
      · have hm := endpoint_of_planMethod ho
        simp [addEndpoint, isPlanned, ho, endpoints_addMethod, hm]
    rw [List.foldl_cons, ih, hstep, List.append_assoc, ← List.filter_append,
      List.singleton_append]

theorem issues_foldl (endpoints : List Endpoint) (w : Workshop) :
    (endpoints.foldl (addEndpoint info) w).issues =
      w.issues ++ endpoints.filterMap (planProblem? info) := by
  induction endpoints generalizing w with
  | nil => simp
  | cons e rest ih =>
    rw [List.foldl_cons, ih, List.filterMap_cons]
    rcases ho : (planMethod info e).outcome with p | ⟨_ | m, found⟩ <;>
      simp [addEndpoint, addMethod, planProblem?, ho]

end Workshop

end Client

namespace Document

variable (config : Config) (d : Document)

/-- The methods for the operations under a segment, and what is wrong with the others. -/
def workshop (segment : String) : Workshop :=
  (d.endpointsUnder segment).foldl (Workshop.addEndpoint d.info) {}

def plannedClient (segment : String) : PlannedClient :=
  ⟨d.info.clientName segment, segment, (d.workshop segment).methods⟩

def codeOf (c : PlannedClient) : String :=
  clientCode d.info.namespaceName c.name c.segment config.emitMetadata c.methods

def accepts (c : PlannedClient) : Bool := (config.verify (d.codeOf config c)).isOk

/-- The clients that pass the check, in the order of their segments. -/
def acceptedClients : List PlannedClient :=
  (d.segments.map d.plannedClient).filter (d.accepts config)

/-- The clients that end up in units, by their names. -/
def shelf : Entries PlannedClient :=
  Entries.putAll [] ((d.acceptedClients config).map fun c => (c.name, c))

def shippedMethods : List Method := (d.shelf config).flatMap (·.2.methods)

def problemsUnder (segment : String) : List Problem :=
  (d.workshop segment).issues ++
    match config.verify (d.codeOf config (d.plannedClient segment)) with
    | .error p => [p]
    | .ok () => []

/-- What becomes of an operation that is not lost. -/
inductive Accounted (e : Endpoint) : Prop
  /-- It has no answer of success. -/
  | unanswered (h : selectResponse e.operation.responses = none)
  /-- It cannot be planned, and the problem is noted. -/
  | unplanned {p : Problem} (h : (planMethod d.info e).outcome = .error p)
      (noted : p ∈ (Clients.generate config d).issues)
  /-- Its client is not well-formed code, and the problem is noted. -/
  | rejected {p : Problem}
      (h : config.verify (d.codeOf config (d.plannedClient (firstSegment e.path))) = .error p)
      (noted : p ∈ (Clients.generate config d).issues)
  /-- One method in the units is about its path and verb. -/
  | shipped (h : ((d.shippedMethods config).map (·.endpoint.key)).count e.key = 1)

variable {config d}

theorem accepts_iff {c : PlannedClient} :
    d.accepts config c = true ↔ config.verify (d.codeOf config c) = .ok () := by
  rw [accepts]
  rcases config.verify (d.codeOf config c) with p | ⟨⟩ <;> simp [Except.isOk, Except.toBool]

def takeSegment (config : Config) (d : Document) (c : Clients) (segment : String) : Clients :=
  Clients.addSegment config d.info d.info.namespaceName c segment (d.endpointsUnder segment)

theorem takeSegment_of_accepts {segment : String} (c : Clients)
    (h : d.accepts config (d.plannedClient segment) = true) :
    takeSegment config d c segment = { c with
      units := c.units.put (d.plannedClient segment).name
        (d.codeOf config (d.plannedClient segment))
      found := c.found ++ (d.workshop segment).found
      references := c.references ++
        referencesOf (d.plannedClient segment).name (d.plannedClient segment).methods
      methods := c.methods + (d.plannedClient segment).methods.length
      issues := c.issues ++ d.problemsUnder config segment } := by
  rw [accepts_iff] at h
  have hcode : config.verify (clientCode d.info.namespaceName (d.info.clientName segment) segment
      config.emitMetadata (d.workshop segment).methods) = .ok () := h
  unfold takeSegment Clients.addSegment Clients.addClient problemsUnder
  dsimp only
  rw [h, ← workshop, hcode, List.append_nil]
  rfl

theorem takeSegment_of_rejects {segment : String} (c : Clients)
    (h : ¬ d.accepts config (d.plannedClient segment) = true) :
    takeSegment config d c segment =
      { c with issues := c.issues ++ d.problemsUnder config segment } := by
  rw [accepts_iff] at h
  rcases hv : config.verify (d.codeOf config (d.plannedClient segment)) with p | ⟨⟩
  · have hcode : config.verify (clientCode d.info.namespaceName (d.info.clientName segment) segment
        config.emitMetadata (d.workshop segment).methods) = .error p := hv
    unfold takeSegment Clients.addSegment Clients.addClient problemsUnder
    dsimp only
    rw [hv, ← workshop, hcode, ← List.append_assoc]
  · exact absurd hv h

theorem generate_eq :
    Clients.generate config d = d.segments.foldl (takeSegment config d)
      { units := [(errorUnitName, errorUnit d.info.namespaceName)] } := by
  rw [Clients.generate, bySegment_paths, List.foldl_map]
  rfl

/-- Among the clients of some segments those that pass the check. -/
theorem filter_accepts_cons (segment : String) (rest : List String) :
    ((segment :: rest).map d.plannedClient).filter (d.accepts config) =
      if d.accepts config (d.plannedClient segment) = true
      then d.plannedClient segment :: (rest.map d.plannedClient).filter (d.accepts config)
      else (rest.map d.plannedClient).filter (d.accepts config) := by
  rw [List.map_cons, List.filter_cons]

theorem units_foldl (segments : List String) (c : Clients) :
    (segments.foldl (takeSegment config d) c).units =
      c.units.putAll (((segments.map d.plannedClient).filter (d.accepts config)).map
        fun p => (p.name, d.codeOf config p)) := by
  induction segments generalizing c with
  | nil => rfl
  | cons segment rest ih =>
    rw [List.foldl_cons, ih, filter_accepts_cons]
    split
    · next h => rw [takeSegment_of_accepts c h, List.map_cons, Entries.putAll_cons]
    · next h => rw [takeSegment_of_rejects c h]

theorem methods_foldl (segments : List String) (c : Clients) :
    (segments.foldl (takeSegment config d) c).methods =
      c.methods + (((segments.map d.plannedClient).filter (d.accepts config)).flatMap
        (·.methods)).length := by
  induction segments generalizing c with
  | nil => rfl
  | cons segment rest ih =>
    rw [List.foldl_cons, ih, filter_accepts_cons]
    split
    · next h =>
      rw [takeSegment_of_accepts c h, List.flatMap_cons, List.length_append, Nat.add_assoc]
    · next h => rw [takeSegment_of_rejects c h]

theorem issues_foldl (segments : List String) (c : Clients) :
    (segments.foldl (takeSegment config d) c).issues =
      c.issues ++ segments.flatMap (d.problemsUnder config) := by
  induction segments generalizing c with
  | nil => simp
  | cons segment rest ih =>
    have hstep : (takeSegment config d c segment).issues =
        c.issues ++ d.problemsUnder config segment := by
      by_cases h : d.accepts config (d.plannedClient segment) = true
      · rw [takeSegment_of_accepts c h]
      · rw [takeSegment_of_rejects c h]
    rw [List.foldl_cons, ih, hstep, List.flatMap_cons, List.append_assoc]

/-- The name of a client is not that of the shared unit. -/
theorem clientName_ne_errorUnitName (info : Info) (segment : String) :
    info.clientName segment ≠ errorUnitName := by
  intro h
  have hmem : 'V' ∈ (info.clientName segment).toList := by
    simp [Info.clientName]
  rw [h] at hmem
  revert hmem
  decide

/-- The units are the shared one and those of the clients on the shelf. -/
theorem units_generate :
    (Clients.generate config d).units = (errorUnitName, errorUnit d.info.namespaceName) ::
      (d.shelf config).map fun p => (p.1, d.codeOf config p.2) := by
  have hname : errorUnitName ∉
      Entries.keys ((d.acceptedClients config).map fun p => (p.name, d.codeOf config p)) := by
    intro hmem
    simp only [Entries.keys, acceptedClients, List.map_map, List.mem_map, List.mem_filter] at hmem
    obtain ⟨p, ⟨⟨segment, _, rfl⟩, _⟩, hp⟩ := hmem
    exact clientName_ne_errorUnitName d.info segment hp
  rw [generate_eq, units_foldl, shelf, Entries.map_putAll, List.map_map]
  exact Entries.putAll_cons_of_notMem hname []

theorem methods_generate :
    (Clients.generate config d).methods =
      ((d.acceptedClients config).flatMap (·.methods)).length := by
  rw [generate_eq, methods_foldl, Nat.zero_add, acceptedClients]

theorem mem_issues_generate {p : Problem} {segment : String} (hs : segment ∈ d.segments)
    (hp : p ∈ d.problemsUnder config segment) : p ∈ (Clients.generate config d).issues := by
  rw [generate_eq, issues_foldl, List.nil_append]
  exact List.mem_flatMap.mpr ⟨segment, hs, hp⟩

theorem endpoints_workshop (segment : String) :
    (d.workshop segment).methods.map (·.endpoint) =
      (d.endpointsUnder segment).filter (isPlanned d.info) := by
  rw [workshop, Workshop.endpoints_foldl]
  rfl

theorem mem_acceptedClients {c : PlannedClient} :
    c ∈ d.acceptedClients config ↔
      (∃ segment ∈ d.segments, d.plannedClient segment = c) ∧ d.accepts config c = true := by
  rw [acceptedClients, List.mem_filter, List.mem_map]

/-- A method of a client is about an operation under its segment that can be planned. -/
theorem endpoint_of_mem_methods {c : PlannedClient} (hc : c ∈ d.acceptedClients config)
    {m : Method} (hm : m ∈ c.methods) :
    m.endpoint ∈ d.endpoints ∧ firstSegment m.endpoint.path = c.segment ∧
      isPlanned d.info m.endpoint = true := by
  obtain ⟨⟨segment, _, rfl⟩, _⟩ := mem_acceptedClients.mp hc
  have hmem : m.endpoint ∈ (d.workshop segment).methods.map (·.endpoint) :=
    List.mem_map_of_mem hm
  rw [endpoints_workshop, List.mem_filter, mem_endpointsUnder] at hmem
  exact ⟨hmem.1.1, hmem.1.2, hmem.2⟩

theorem eq_of_segment_eq {a b : PlannedClient} (ha : a ∈ d.acceptedClients config)
    (hb : b ∈ d.acceptedClients config) (h : a.segment = b.segment) : a = b := by
  obtain ⟨⟨s, _, rfl⟩, _⟩ := mem_acceptedClients.mp ha
  obtain ⟨⟨t, _, rfl⟩, _⟩ := mem_acceptedClients.mp hb
  have hst : s = t := h
  rw [hst]

theorem nodup_acceptedClients : (d.acceptedClients config).Nodup := by
  refine List.Nodup.filter _ (List.Nodup.map_on ?_ d.nodup_segments)
  intro s _ t _ h
  exact congrArg PlannedClient.segment h

/-- The pairs of name and client that the shelf is made of. -/
theorem shippedMethods_perm :
    (d.shippedMethods config).Perm
      ((Entries.lasting ((d.acceptedClients config).map fun c => (c.name, c))).flatMap
        (·.2.methods)) :=
  (Entries.putAll_perm_lasting _).flatMap_right _

theorem flatMap_named :
    ((d.acceptedClients config).map fun c => (c.name, c)).flatMap (·.2.methods) =
      (d.acceptedClients config).flatMap (·.methods) := by
  rw [List.flatMap_map]

theorem namesKept_iff_pairwise {clients : List PlannedClient} :
    NamesKept clients ↔ (clients.map fun c => (c.name, c)).Pairwise
      fun p q => p.2.methods ≠ [] → p.1 ≠ q.1 := by
  rw [NamesKept, List.pairwise_map]

theorem shippedMethods_perm_of_namesKept (h : NamesKept (d.acceptedClients config)) :
    (d.shippedMethods config).Perm ((d.acceptedClients config).flatMap (·.methods)) := by
  have hlast := Entries.flatMap_lasting (namesKept_iff_pairwise.mp h)
  have hperm := @shippedMethods_perm config d
  rwa [hlast, flatMap_named] at hperm

/-- The count of methods is that of the methods in the units exactly when none is replaced. -/
theorem methods_eq_length_iff :
    (Clients.generate config d).methods = (d.shippedMethods config).length ↔
      NamesKept (d.acceptedClients config) := by
  rw [methods_generate]
  constructor
  · intro h
    rw [shippedMethods_perm.length_eq, ← flatMap_named] at h
    exact namesKept_iff_pairwise.mpr (Entries.pairwise_of_length_flatMap_lasting h.symm)
  · exact fun h => (shippedMethods_perm_of_namesKept h).length_eq.symm

theorem nodup_map_key_methods (hpaths : d.paths.keys.Nodup) :
    (((d.acceptedClients config).flatMap (·.methods)).map (·.endpoint.key)).Nodup := by
  have hkeys := nodup_map_key_endpoints hpaths
  rw [List.map_flatMap, List.nodup_flatMap]
  constructor
  · intro c hc
    obtain ⟨⟨segment, _, rfl⟩, _⟩ := mem_acceptedClients.mp hc
    have hmap : (d.plannedClient segment).methods.map (·.endpoint.key) =
        ((d.endpointsUnder segment).filter (isPlanned d.info)).map Endpoint.key := by
      rw [← endpoints_workshop, List.map_map]
      rfl
    rw [hmap]
    exact hkeys.sublist ((List.filter_sublist.trans List.filter_sublist).map _)
  · refine (@nodup_acceptedClients config d).imp_of_mem ?_
    intro a b ha hb hne key hka hkb
    -- Methods of one key are about one path, and a path is under one first segment.
    obtain ⟨m, hm, rfl⟩ := List.mem_map.mp hka
    obtain ⟨n, hn, hkey⟩ := List.mem_map.mp hkb
    have hpath : n.endpoint.path = m.endpoint.path := congrArg Prod.fst hkey
    have hsegment : a.segment = b.segment := by
      rw [← (endpoint_of_mem_methods ha hm).2.1, ← (endpoint_of_mem_methods hb hn).2.1, hpath]
    exact hne (eq_of_segment_eq ha hb hsegment)

/-- An operation that can be planned has a method, if its client passes the check. -/
theorem exists_method {e : Endpoint} (he : e ∈ d.endpoints) (hplan : isPlanned d.info e = true)
    (hv : config.verify (d.codeOf config (d.plannedClient (firstSegment e.path))) = .ok ()) :
    ∃ c ∈ d.acceptedClients config, ∃ m ∈ c.methods, m.endpoint = e := by
  have hc : d.plannedClient (firstSegment e.path) ∈ d.acceptedClients config :=
    mem_acceptedClients.mpr ⟨⟨_, firstSegment_mem_segments he, rfl⟩, accepts_iff.mpr hv⟩
  have hmem : e ∈ (d.workshop (firstSegment e.path)).methods.map (·.endpoint) := by
    rw [endpoints_workshop]
    exact List.mem_filter.mpr ⟨mem_endpointsUnder.mpr ⟨he, rfl⟩, hplan⟩
  obtain ⟨m, hm, hendpoint⟩ := List.mem_map.mp hmem
  exact ⟨_, hc, m, hm, hendpoint⟩

/-- Where no client is replaced, no operation is lost. -/
theorem accounted_of_namesKept (hpaths : d.paths.keys.Nodup)
    (h : NamesKept (d.acceptedClients config)) {e : Endpoint} (he : e ∈ d.endpoints) :
    d.Accounted config e := by
  have hs := firstSegment_mem_segments he
  have hunder : e ∈ d.endpointsUnder (firstSegment e.path) := mem_endpointsUnder.mpr ⟨he, rfl⟩
  by_cases hnone : selectResponse e.operation.responses = none
  · exact .unanswered hnone
  rcases @planned_or_problem d.info _ hnone with hplan | ⟨p, hp⟩
  · rcases hv : config.verify (d.codeOf config (d.plannedClient (firstSegment e.path))) with p | ⟨⟩
    · refine .rejected hv (mem_issues_generate hs ?_)
      rw [problemsUnder, hv]
      exact List.mem_append_right _ List.mem_cons_self
    · obtain ⟨c, hc, m, hm, rfl⟩ := exists_method he hplan hv
      refine .shipped ?_
      rw [((shippedMethods_perm_of_namesKept h).map _).count_eq]
      refine List.count_eq_one_of_mem (nodup_map_key_methods hpaths) ?_
      exact List.mem_map.mpr ⟨m, List.mem_flatMap.mpr ⟨_, hc, hm⟩, rfl⟩
  · refine .unplanned hp (mem_issues_generate hs ?_)
    rw [problemsUnder, workshop, Workshop.issues_foldl]
    refine List.mem_append_left _ (List.mem_append_right _ (List.mem_filterMap.mpr ⟨e, hunder, ?_⟩))
    rw [planProblem?, hp]

/-- A client whose methods are accounted for is not replaced if it has any. -/
theorem mem_lasting_of_accounted {c : PlannedClient} (hc : c ∈ d.acceptedClients config)
    (hne : c.methods ≠ []) (h : ∀ e ∈ d.endpoints, d.Accounted config e) :
    (c.name, c) ∈ Entries.lasting ((d.acceptedClients config).map fun c => (c.name, c)) := by
  obtain ⟨m, hm⟩ := List.exists_mem_of_ne_nil _ hne
  obtain ⟨he, hsegment, hplan⟩ := endpoint_of_mem_methods hc hm
  cases h m.endpoint he with
  | unanswered hnone =>
    rw [not_isPlanned hnone] at hplan
    cases hplan
  | unplanned hp _ =>
    rw [isPlanned, hp] at hplan
    cases hplan
  | rejected hv _ =>
    obtain ⟨⟨segment, _, rfl⟩, haccepts⟩ := mem_acceptedClients.mp hc
    rw [hsegment] at hv
    rw [accepts_iff] at haccepts
    exact absurd (hv.symm.trans haccepts) (by simp)
  | shipped hcount =>
    -- What was shipped for the operation comes from a client of its segment, and there is one.
    have hkey : m.endpoint.key ∈ (d.shippedMethods config).map (·.endpoint.key) :=
      List.count_pos_iff.mp (by omega)
    obtain ⟨n, hn, hnm⟩ := List.mem_map.mp hkey
    obtain ⟨q, hq, hnq⟩ := List.mem_flatMap.mp (shippedMethods_perm.mem_iff.mp hn)
    obtain ⟨b, hb, rfl⟩ := List.mem_map.mp ((Entries.lasting_sublist _).subset hq)
    have hpath : n.endpoint.path = m.endpoint.path := congrArg Prod.fst hnm
    have hsame : b.segment = c.segment := by
      rw [← (endpoint_of_mem_methods hb hnq).2.1, hpath, hsegment]
    rwa [eq_of_segment_eq hb hc hsame] at hq

theorem namesKept_of_accounted (h : ∀ e ∈ d.endpoints, d.Accounted config e) :
    NamesKept (d.acceptedClients config) := by
  have hnodup : ((d.acceptedClients config).map fun c => (c.name, c)).Nodup :=
    nodup_acceptedClients.map fun a b hab => congrArg Prod.snd hab
  rw [namesKept_iff_pairwise]
  refine Entries.pairwise_of_mem_lasting hnodup ?_
  intro p hp hne
  obtain ⟨c, hc, rfl⟩ := List.mem_map.mp hp
  exact mem_lasting_of_accounted hc hne h

/-- The units are those of the clients on the shelf, and the clients account for every operation and
count the methods in the units exactly when no client with a method is replaced by a later one. -/
theorem operations_accounted_iff (config : Config) (d : Document) (hpaths : d.paths.keys.Nodup) :
    ((Clients.generate config d).units = (errorUnitName, errorUnit d.info.namespaceName) ::
      (d.shelf config).map fun p => (p.1, d.codeOf config p.2)) ∧
    ((∀ e ∈ d.endpoints, d.Accounted config e) ↔ NamesKept (d.acceptedClients config)) ∧
    ((Clients.generate config d).methods = (d.shippedMethods config).length ↔
      NamesKept (d.acceptedClients config)) :=
  ⟨units_generate,
    ⟨namesKept_of_accounted, fun h _ he => accounted_of_namesKept hpaths h he⟩,
    methods_eq_length_iff⟩

/-- The clients of a document that is read from text account for every operation exactly when no
client with a method is replaced by a later one. -/
theorem accounted_iff_of_parse {text : String} {d : Document} (h : Document.parse text = .ok d)
    (config : Config) :
    (∀ e ∈ d.endpoints, d.Accounted config e) ↔ NamesKept (d.acceptedClients config) :=
  ⟨namesKept_of_accounted,
    fun hkept _ he => accounted_of_namesKept (nodup_keys_of_parse h) hkept he⟩

end Document

/-! Two segments that differ in the case of a letter only give their clients one name. -/

def PathItem.answering (verb : Verb) : PathItem where
  declared := [(verb, { responses := [("200", {})] })]

def Document.usersAndOrders : Document where
  openapi := "3.0.0"
  info := { title := "Test", version := "1.0" }
  paths := [("/users", .answering .get), ("/orders", .answering .get)]

/-- A document with two paths that differ in the case of a letter only. -/
def Document.usersTwice : Document where
  openapi := "3.0.0"
  info := { title := "Test", version := "1.0" }
  paths := [("/users", .answering .get), ("/Users", .answering .get)]

theorem Document.usersAndOrders_accounted :
    Document.usersAndOrders.paths.keys.Nodup ∧
      (Clients.generate .unchecked Document.usersAndOrders).methods =
        (Document.usersAndOrders.shippedMethods .unchecked).length ∧
      ∀ e ∈ Document.usersAndOrders.endpoints, Document.usersAndOrders.Accounted .unchecked e := by
  have hpaths : Document.usersAndOrders.paths.keys.Nodup := by decide
  obtain ⟨_, haccounted, hcount⟩ := operations_accounted_iff .unchecked .usersAndOrders hpaths
  have hkept : NamesKept (Document.usersAndOrders.acceptedClients .unchecked) := by
    have hnames : ((Document.usersAndOrders.acceptedClients .unchecked).map (·.name)).Nodup := by
      decide
    refine (List.pairwise_map.mp hnames).imp ?_
    intro a b hne _
    exact hne
  exact ⟨hpaths, hcount.mpr hkept, haccounted.mpr hkept⟩

theorem Document.usersTwice_lost :
    (Clients.generate .unchecked Document.usersTwice).methods = 2 ∧
      (Document.usersTwice.shippedMethods .unchecked).length = 1 ∧
      ∃ e ∈ Document.usersTwice.endpoints, ¬ Document.usersTwice.Accounted .unchecked e := by
  refine ⟨by decide +kernel, by decide +kernel, _, List.mem_cons_self, ?_⟩
  intro h
  cases h with
  | unanswered hnone => cases hnone
  | unplanned hp _ =>
    have hplan : isPlanned Document.usersTwice.info
        ⟨"/users", .answering .get, .get, { responses := [("200", {})] }⟩ = true := by
      decide
    rw [isPlanned, hp] at hplan
    cases hplan
  | rejected hv _ => cases hv
  | shipped hcount =>
    revert hcount
    decide +kernel

end ApiForge
