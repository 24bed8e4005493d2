import ApiForge.Proofs.Pipeline
import ApiForge.Proofs.Signature

/-!
The types that clients name. A client that is taken adds the names in the signatures of its methods,
and the work that they ask for, to what the clients hold together; at the end each name is looked up
among the types that come out. Main statement: `references_settled`.
-/

namespace ApiForge

open Client

theorem Client.Signature.rename {e : Endpoint} {m : Method} {found : Discovered}
    (h : Signature e m found) (name : String) : Signature e { m with name } found :=
  ⟨h.endpoint, h.argument, h.body, h.payload, h.written⟩

/-- The methods of a workshop have signatures, and ask for work that the workshop holds. -/
theorem Client.Workshop.signature_foldl (info : Info) (endpoints : List Endpoint) {w : Workshop}
    (hw : ∀ m ∈ w.methods, Signature m.endpoint m w.found) :
    ∀ m ∈ (endpoints.foldl (Workshop.addEndpoint info) w).methods,
      Signature m.endpoint m (endpoints.foldl (Workshop.addEndpoint info) w).found := by
  induction endpoints generalizing w with
  | nil => exact hw
  | cons e rest ih =>
    apply ih
    rcases ho : (planMethod info e).outcome with p | ⟨_ | planned, found⟩
    · simpa [addEndpoint, ho] using hw
    · simpa [addEndpoint, ho] using hw
    · have hstep : w.addEndpoint info e =
          { w.addMethod planned with found := w.found ++ found } := by
        simp [addEndpoint, ho]
      rw [hstep]
      intro m hm
      rcases List.mem_append.mp hm with hm | hm
      · exact (hw m hm).mono (w.found.within_append_left found)
      · have hplanned := signature_planMethod ho
        obtain rfl : planned.endpoint = e := hplanned.endpoint
        rw [List.mem_singleton.mp hm]
        exact (hplanned.rename _).mono (w.found.within_append_right found)

namespace Document

variable {config : Config} {d : Document}

theorem references_foldl (segments : List String) (c : Clients) :
    (segments.foldl (takeSegment config d) c).references =
      c.references ++ ((segments.map d.plannedClient).filter (d.accepts config)).flatMap
        fun p => referencesOf p.name p.methods := by
  induction segments generalizing c with
  | nil => simp
  | cons segment rest ih =>
    rw [List.foldl_cons, ih, filter_accepts_cons]
    split
    · next h => rw [takeSegment_of_accepts c h, List.flatMap_cons, List.append_assoc]
    · next h => rw [takeSegment_of_rejects c h]

/-- The names that the clients hold together are those of the clients that pass the check. -/
theorem references_generate :
    (Clients.generate config d).references =
      (d.acceptedClients config).flatMap fun p => referencesOf p.name p.methods := by
  rw [generate_eq, references_foldl, List.nil_append, acceptedClients]

theorem found_foldl_within (segments : List String) (c : Clients) :
    c.found.Within (segments.foldl (takeSegment config d) c).found ∧
      ∀ segment ∈ segments, d.accepts config (d.plannedClient segment) = true →
        (d.workshop segment).found.Within (segments.foldl (takeSegment config d) c).found := by
  induction segments generalizing c with
  | nil =>
    refine ⟨c.found.within_refl, fun segment hsegment => ?_⟩
    cases hsegment
  | cons segment rest ih =>
    obtain ⟨hstart, hrest⟩ := ih (takeSegment config d c segment)
    rw [List.foldl_cons]
    by_cases h : d.accepts config (d.plannedClient segment) = true
    · have hfound : (takeSegment config d c segment).found =
          c.found ++ (d.workshop segment).found := by
        rw [takeSegment_of_accepts c h]
      rw [hfound] at hstart
      refine ⟨(c.found.within_append_left _).trans hstart, ?_⟩
      intro other hother haccepts
      rcases List.mem_cons.mp hother with rfl | hother
      · exact (c.found.within_append_right _).trans hstart
      · exact hrest other hother haccepts
    · have hfound : (takeSegment config d c segment).found = c.found := by
        rw [takeSegment_of_rejects c h]
      rw [hfound] at hstart
      refine ⟨hstart, ?_⟩
      intro other hother haccepts
      rcases List.mem_cons.mp hother with rfl | hother
      · exact absurd haccepts h
      · exact hrest other hother haccepts

/-- The methods of a client that passes the check have signatures, and what they ask for is asked
for by the clients together. -/
theorem signature_of_mem_acceptedClients {c : PlannedClient} (hc : c ∈ d.acceptedClients config)
    {m : Method} (hm : m ∈ c.methods) :
    Signature m.endpoint m (Clients.generate config d).found := by
  obtain ⟨⟨segment, hsegment, rfl⟩, haccepts⟩ := mem_acceptedClients.mp hc
  have hworkshop : Signature m.endpoint m (d.workshop segment).found := by
    refine Workshop.signature_foldl d.info (d.endpointsUnder segment) ?_ m hm
    intro n hn
    cases hn
  rw [generate_eq]
  exact hworkshop.mono ((found_foldl_within d.segments _).2 segment hsegment haccepts)

theorem mem_shelf {p : String × PlannedClient} (h : p ∈ d.shelf config) :
    p.2 ∈ d.acceptedClients config ∧ p.1 = p.2.name := by
  have hlasting := (Entries.putAll_perm_lasting _).mem_iff.mp h
  obtain ⟨c, hc, rfl⟩ := List.mem_map.mp ((Entries.lasting_sublist _).subset hlasting)
  exact ⟨hc, rfl⟩

/-- A name in a type of a method is held as a name of the client of the method. -/
theorem mem_references {c : PlannedClient} (hc : c ∈ d.acceptedClients config) {m : Method}
    (hm : m ∈ c.methods) {t : ModelType} (ht : t ∈ m.types) {name : String}
    (hname : name ∈ t.referencedNames) :
    ⟨c.name, name⟩ ∈ (Clients.generate config d).references := by
  rw [references_generate]
  have hmethod : ⟨c.name, name⟩ ∈
      m.types.flatMap fun t => t.referencedNames.map (TypeReference.mk c.name) :=
    List.mem_flatMap.mpr ⟨t, ht, List.mem_map_of_mem hname⟩
  exact List.mem_flatMap.mpr ⟨c, hc, List.mem_flatMap.mpr ⟨m, hm, hmethod⟩⟩

theorem unresolvedReferences_eq {references : List TypeReference} :
    unresolvedReferences (d.modelRun config).registry references =
      (references.filter fun r =>
        r.target ∉ (ModelType.boxAll (d.modelRun config).types).filterMap (·.name?) ∧
          r.target ∉ errorUnitTypes).map
        fun r => .unresolvedForwardReference r.client r.target := by
  obtain ⟨history, hreached⟩ := reached_modelRun config d
  rw [unresolvedReferences, ModelRun.names_boxAll]
  congr 1
  apply List.filter_congr
  intro r _
  have hregistry : (d.modelRun config).registry.contains r.target = true ↔
      r.target ∈ (d.modelRun config).types.filterMap (·.name?) := by
    rw [ModelRun.contains_registry_iff hreached, List.mem_filterMap]
  rw [Bool.eq_iff_iff, Bool.and_eq_true, Bool.not_eq_true', Bool.not_eq_true', decide_eq_true_eq,
    ← Bool.not_eq_true, ← Bool.not_eq_true, hregistry, List.contains_iff_mem]

/-- When a document is generated, the names that its clients hold and that neither a type that comes
out nor the shared unit has are noted, each once, between what the clients and what the types note.
The clients hold every name in the signatures of the methods in their units: an argument is written
as the type of its parameter or of the body, the payload as that of the answer. -/
theorem references_settled {g : Generated} (h : d.generate config = .ok g) :
    g.clients = (errorUnitName, errorUnit d.info.namespaceName) ::
      (d.shelf config).map (fun p => (p.1, d.codeOf config p.2)) ∧
    g.issues = (Clients.generate config d).issues ++
      ((Clients.generate config d).references.filter fun r =>
        r.target ∉ g.types.filterMap (·.name?) ∧ r.target ∉ errorUnitTypes).map
          (fun r => .unresolvedForwardReference r.client r.target) ++
      ((d.modelRun config).finish config).issues ∧
    ∀ p ∈ d.shelf config, ∀ m ∈ p.2.methods,
      (∀ a ∈ m.arguments, ∃ t, a.type = t.expression ∧
        ArgumentOf m.endpoint a t (Clients.generate config d).found ∧
        ∀ name ∈ t.writtenNames, ⟨p.1, name⟩ ∈ (Clients.generate config d).references) ∧
      ∃ types, PayloadOf m.endpoint m.payload types (Clients.generate config d).found ∧
        ∀ t ∈ types, ∀ name ∈ t.writtenNames,
          ⟨p.1, name⟩ ∈ (Clients.generate config d).references := by
  obtain ⟨_, rfl⟩ := generate_eq_ok_iff.mp h
  refine ⟨units_generate, ?_, ?_⟩
  · dsimp only
    rw [unresolvedReferences_eq]
  · intro p hp m hm
    obtain ⟨hclient, hname⟩ := mem_shelf hp
    have hsignature := signature_of_mem_acceptedClients hclient hm
    have hheld : ∀ t ∈ m.types, ∀ name ∈ t.writtenNames,
        ⟨p.1, name⟩ ∈ (Clients.generate config d).references := by
      intro t ht name hwritten
      rw [hsignature.written t ht] at hwritten
      rw [hname]
      exact mem_references hclient hm ht hwritten
    refine ⟨?_, m.types, hsignature.payload, hheld⟩
    intro a ha
    obtain ⟨t, ht, htype, hargument⟩ := hsignature.argument a ha
    exact ⟨t, htype, hargument, hheld t ht⟩

def answeringWith (schema : Schema) : PathItem where
  declared := [(.get, { responses :=
    [("200", { content := [("application/json", { schema := some schema })] })] })]

/-- A document whose users are listed as items of a type that it does not have. -/
def missingUsers : Document where
  openapi := "3.0.0"
  info := { title := "Test", version := "1.0" }
  paths := [("/users",
    answeringWith (.node {} (.array (some (.node {} (.reference "#/components/schemas/User"))))))]

theorem missingUsers_noted : ∃ g, missingUsers.generate .unchecked = .ok g ∧
    .unresolvedForwardReference "UsersClientV1" "User" ∈ g.issues := by
  obtain ⟨g, hgenerate⟩ : ∃ g, missingUsers.generate .unchecked = .ok g :=
    ⟨_, generate_eq_ok_iff.mpr ⟨rfl, rfl⟩⟩
  obtain ⟨_, hissues, _⟩ := references_settled hgenerate
  obtain ⟨_, rfl⟩ := generate_eq_ok_iff.mp hgenerate
  refine ⟨_, hgenerate, ?_⟩
  rw [hissues]
  refine List.mem_append_left _ (List.mem_append_right _ ?_)
  refine List.mem_map.mpr ⟨⟨"UsersClientV1", "User"⟩, List.mem_filter.mpr ⟨?_, ?_⟩, rfl⟩
  · decide +kernel
  · decide +kernel

end Document

end ApiForge
