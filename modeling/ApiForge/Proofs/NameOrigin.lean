import ApiForge.Proofs.Pipeline
import ApiForge.Proofs.Signature

/-!
Where the names of types come from. A schema stands in a document under a key: its own among the
schemas of the document, the name of a parameter or a property, or what an operation makes of its
path. A run never takes up a schema under any other key, but for the items of a list, whose key is
the name of the list with an ending. Main statement: the names of the types are those of what the
types are made from, and all of these are derived from the document (`mem_typeNames_modelRun` and
`derives_of_mem_names`).
-/

namespace ApiForge

open Client

namespace Document

variable (d : Document)

/-- A schema stands in a document under a key, which names the type of the schema if there is to be
one. -/
inductive Stands : String → Schema → Prop
  | component {key : String} {s : Schema} (h : (key, s) ∈ d.schemas) : Stands key s
  | parameter {e : Endpoint} {p : Parameter} {place : Client.Place} {s : Schema}
      (he : e ∈ d.endpoints) (hp : p ∈ e.parameters)
      (hrole : roleOf p = .argument place) (hs : p.schema = some s) : Stands p.name s
  | request {e : Endpoint} {s : Schema} (he : e ∈ d.endpoints) (hs : e.requestSchema = some s) :
      Stands (e.stem ++ "Request") s
  | response {e : Endpoint} {s : Schema} (he : e ∈ d.endpoints) (hs : e.responseSchema = some s) :
      Stands (e.stem ++ "Response") s
  | property {key wire : String} {s t : Schema} (h : Stands key s) (ht : (wire, t) ∈ s.properties) :
      Stands wire t
  | items {key : String} {notes : Annotations} {t : Schema}
      (h : Stands key (.node notes (.array (some t)))) : Stands key t
  | alternative {owner wire : String} {notes : Annotations} {variants : List Schema} {v t : Schema}
      (h : Stands owner (.node notes (.oneOf variants))) (hv : v ∈ variants)
      (ht : (wire, t) ∈ v.properties) : Stands wire t

/-- The work that the schemas in a document may give rise to. -/
inductive Expects : WorkItem → Prop
  | schema {key : String} {s : Schema} (h : d.Stands key s) : Expects (.schema ⟨key, s⟩)
  | items {key : String} {s : Schema} (h : d.Stands key s) :
      Expects (.schema ⟨Name.className key ++ Resolving.itemSuffix, s⟩)
  | union {owner : String} {notes : Annotations} {variants : List Schema}
      (h : d.Stands owner (.node notes (.oneOf variants))) : Expects (.union ⟨owner, variants⟩)

/-- The names that types may get from the schemas in a document. -/
inductive Derives : String → Prop
  | schema {key : String} {s : Schema} (h : d.Stands key s) : Derives (Name.className key)
  | items {key : String} {s : Schema} (h : d.Stands key s) :
      Derives (Name.className key ++ Resolving.itemSuffix)
  | marker {owner : String} {notes : Annotations} {variants : List Schema}
      (h : d.Stands owner (.node notes (.oneOf variants))) : Derives (Name.unionName owner)
  | variant {owner : String} {notes : Annotations} {variants : List Schema} {v : Schema}
      (h : d.Stands owner (.node notes (.oneOf variants))) (hv : v ∈ variants) :
      Derives (DerivedUnion.variantName owner (v.notes.title.getD ""))

/-- The properties of a schema stand in a document. -/
def Opens (s : Schema) : Prop := ∀ p ∈ s.properties, d.Stands p.1 p.2

end Document

/-- All pieces of some work have a property. -/
structure Discovered.All (P : WorkItem → Prop) (found : Discovered) : Prop where
  pending : ∀ p ∈ found.pending, P (.schema p)
  unions : ∀ g ∈ found.unions, P (.union g)

namespace Discovered

variable {P : WorkItem → Prop} {found more : Discovered}

theorem all_empty : ({} : Discovered).All P := ⟨List.forall_mem_nil _, List.forall_mem_nil _⟩

theorem all_schema {p : PendingSchema} (h : P (.schema p)) :
    ({ pending := [p] } : Discovered).All P :=
  ⟨List.forall_mem_singleton.mpr h, List.forall_mem_nil _⟩

theorem all_union {g : UnionGroup} (h : P (.union g)) : ({ unions := [g] } : Discovered).All P :=
  ⟨List.forall_mem_nil _, List.forall_mem_singleton.mpr h⟩

theorem All.append (h : found.All P) (hmore : more.All P) : (found ++ more).All P where
  pending p hp := (List.mem_append.mp hp).elim (h.pending p) (hmore.pending p)
  unions g hg := (List.mem_append.mp hg).elim (h.unions g) (hmore.unions g)

end Discovered

namespace Resolving

variable {α β : Type} {P : WorkItem → Prop}

/-- Whenever a resolution has a result, all the work that it adds has a property. -/
def Adds (m : Resolving α) (P : WorkItem → Prop) : Prop := Gives m fun _ found => found.All P

namespace Adds

theorem pure (a : α) : Adds (Pure.pure a : Resolving α) P := Gives.pure Discovered.all_empty

theorem bind {m : Resolving α} {f : α → Resolving β} (hm : Adds m P) (hf : ∀ a, Adds (f a) P) :
    Adds (m >>= f) P :=
  Gives.bind hm fun a => (hf a).mono fun _ _ hmore _ h => h.append hmore

theorem className (key : String) : Adds (Resolving.className key) P := by
  refine (Gives.className key).mono ?_
  rintro _ _ ⟨_, rfl⟩
  exact Discovered.all_empty

theorem lift (e : Except Problem α) : Adds (Resolving.lift e) P := by
  refine (Gives.lift e).mono ?_
  rintro _ _ ⟨_, rfl⟩
  exact Discovered.all_empty

end Adds

variable {d : Document}

/-- The work that is put down for a schema in a document is work that the document expects. -/
theorem TypeOf.expects {key : String} {s : Schema} {t : ModelType} {found : Discovered}
    (h : TypeOf key s t found) (hs : d.Stands key s) : found.All d.Expects := by
  induction h with
  | enumeration => exact Discovered.all_schema (.schema hs)
  | oneOf => exact Discovered.all_union (.union hs)
  | object => exact Discovered.all_schema (.schema hs)
  | listOf _ _ ih => exact ih hs.items
  | listOfObjects => exact Discovered.all_schema (.items hs.items)
  | _ => exact Discovered.all_empty

theorem adds_property {key : String} {s : Schema} (h : d.Stands key s) :
    Adds (property key s) d.Expects :=
  (gives_typeOf key s).mono fun _ _ htype => htype.expects h

theorem adds_fieldsFrom (owner : String) (required used : List String)
    {properties : List (String × Schema)} (h : ∀ p ∈ properties, d.Stands p.1 p.2) :
    Adds (fieldsFrom owner required used properties) d.Expects := by
  induction properties generalizing used with
  | nil => exact .pure _
  | cons p rest ih =>
    rw [List.forall_mem_cons] at h
    rw [fieldsFrom]
    exact (adds_property h.1).bind fun _ => (ih _ h.2).bind fun _ => .pure _

theorem adds_fields (owner : String) {s : Schema} (h : d.Opens s) :
    Adds (fields owner s) d.Expects := by
  rw [Document.Opens, Schema.properties] at h
  rw [fields]
  cases hshape : s.shape with
  | object properties required =>
    rw [hshape] at h
    exact adds_fieldsFrom owner required [] h
  | _ => exact .pure _

theorem adds_variantsFrom (owner baseName namespaceName : String) (index : Nat)
    {alternatives : List Schema} (h : ∀ v ∈ alternatives, d.Opens v) :
    Adds (DerivedUnion.variantsFrom owner baseName namespaceName index alternatives)
      d.Expects := by
  induction alternatives generalizing index with
  | nil => exact .pure _
  | cons v rest ih =>
    rw [List.forall_mem_cons] at h
    rw [DerivedUnion.variantsFrom]
    exact (Adds.lift _).bind fun _ => (adds_fields _ h.1).bind fun _ => (ih _ h.2).bind fun _ =>
      .pure _

theorem adds_derive (registry : Registry) {group : UnionGroup} (namespaceName : String)
    (h : ∀ v ∈ group.variants, d.Opens v) :
    Adds (DerivedUnion.derive registry group namespaceName) d.Expects := by
  rw [DerivedUnion.derive]
  refine ((Adds.className group.owner).bind fun _ => .pure _).bind fun name => ?_
  split
  · exact .pure _
  · exact (adds_variantsFrom _ _ _ _ h).bind fun _ => .pure _

end Resolving

namespace Client

open Resolving

variable {d : Document} {e : Endpoint}

theorem adds_parameterType {p : Parameter} (h : ∀ s, p.schema = some s → d.Stands p.name s) :
    Adds (parameterType p) d.Expects := by
  rw [parameterType]
  cases hs : p.schema with
  | none => exact .pure _
  | some s => exact adds_property (h s hs)

theorem adds_parameterArguments (he : e ∈ d.endpoints) (used : List String) {ps : List Parameter}
    (hps : ps ⊆ e.parameters) : Adds (parameterArguments used ps) d.Expects := by
  induction ps generalizing used with
  | nil => exact .pure _
  | cons p rest ih =>
    rw [List.cons_subset] at hps
    rw [parameterArguments]
    split
    · next place hrole =>
      refine (adds_parameterType fun s hs => ?_).bind fun _ => (ih _ hps.2).bind fun _ => .pure _
      exact .parameter he hps.1 hrole hs
    · exact ih used hps.2

theorem adds_bodyArgument (used : List String) {key : String} {body : RequestBody}
    (h : ∀ s, Content.schema body.content = some s → d.Stands key s) :
    Adds (bodyArgument used key body) d.Expects := by
  rw [bodyArgument]
  cases hs : Content.schema body.content with
  | none => exact .pure _
  | some s => exact (adds_property (h s hs)).bind fun _ => .pure _

theorem adds_responsePayload {key : String} (status : String) {response : Response}
    (h : ∀ s, Content.schema response.content = some s → d.Stands key s) :
    Adds (responsePayload key status response) d.Expects := by
  rw [responsePayload]
  cases hs : Content.schema response.content with
  | none => exact .pure _
  | some s => exact (adds_property (h s hs)).bind fun _ => .pure _

/-- What an operation of a document asks for is expected of the document. -/
theorem adds_planMethod (info : Info) (he : e ∈ d.endpoints) :
    Adds (planMethod info e) d.Expects := by
  unfold planMethod
  split
  · exact .pure _
  · next status response hselect =>
    have hanswer : ∀ s, Content.schema response.content = some s →
        d.Stands (e.stem ++ "Response") s := by
      intro s hs
      refine .response he ?_
      rw [Endpoint.responseSchema, hselect]
      exact hs
    refine (adds_parameterArguments he [] (List.Subset.refl _)).bind fun given => ?_
    dsimp only
    rw [← Endpoint.stem]
    split
    · next body hbody =>
      have hrequest : ∀ s, Content.schema body.content = some s →
          d.Stands (e.stem ++ "Request") s := by
        intro s hs
        refine .request he ?_
        rw [Endpoint.requestSchema, hbody]
        exact hs
      refine (adds_bodyArgument _ hrequest).bind fun _ => ?_
      exact (adds_responsePayload status hanswer).bind fun _ => .pure _
    · refine Adds.bind (.pure _) fun _ => ?_
      exact (adds_responsePayload status hanswer).bind fun _ => .pure _

end Client

namespace ModelRun

variable {config : Config} {namespaceName : String} {d : Document} {run : ModelRun}

theorem all_of_makeNamed {name code : String} {body : Schema} {notes : Option String}
    {type : ModelType} {found : Discovered} (hbody : d.Opens body)
    (h : makeNamed config namespaceName name body notes = .ok (type, code, found)) :
    found.All d.Expects := by
  have hrender : Resolving.Adds (render namespaceName name body notes) d.Expects := by
    unfold render
    split
    · exact .pure _
    · exact ((Resolving.adds_fields _ hbody).bind fun _ => .pure _).bind fun _ => .pure _
  obtain ⟨⟨⟨t, c⟩, f⟩, hout, h⟩ := bind_eq_ok h
  obtain ⟨_, _, h⟩ := bind_eq_ok h
  cases h
  exact Resolving.Gives.of_outcome hrender hout

theorem all_of_makeUnion {registry : Registry} {group : UnionGroup} {u : DerivedUnion}
    {found : Discovered} (hgroup : ∀ v ∈ group.variants, d.Opens v)
    (h : makeUnion config namespaceName registry group = .ok (some (u, found))) :
    found.All d.Expects := by
  obtain ⟨⟨r, f⟩, hout, h⟩ := bind_eq_ok h
  have hadds :=
    Resolving.Gives.of_outcome (Resolving.adds_derive registry namespaceName hgroup) hout
  cases r with
  | none => cases h
  | some derived =>
    obtain ⟨_, _, h⟩ := bind_eq_ok h
    cases h
    exact hadds

theorem all_generateNamed (h : run.work.All d.Expects) (key : String) (declared : Schema)
    {body : Schema} (hbody : d.Opens body) :
    (generateNamed config namespaceName run key declared body).work.All d.Expects := by
  rcases generateNamed_cases config namespaceName run key declared body with
    ⟨_, heq⟩ | ⟨_, ⟨p, _, heq⟩ | ⟨type, code, found, hmake, heq⟩⟩
  · rw [heq]
    exact h
  · rw [heq]
    exact h
  · rw [heq]
    exact h.append (all_of_makeNamed hbody hmake)

theorem all_generateUnion (h : run.work.All d.Expects) {group : UnionGroup}
    (hgroup : ∀ v ∈ group.variants, d.Opens v) :
    (generateUnion config namespaceName run group).work.All d.Expects := by
  rw [generateUnion]
  rcases hmake : makeUnion config namespaceName run.registry group with p | (_ | ⟨u, found⟩)
  · exact h
  · exact h
  · exact h.append (all_of_makeUnion hgroup hmake)

/-- Work that a document expects leads to nothing else. -/
theorem all_perform (h : run.work.All d.Expects) {item : WorkItem} (hitem : d.Expects item) :
    (run.perform config namespaceName item).work.All d.Expects := by
  cases hitem with
  | schema hs => exact all_generateNamed h _ _ fun _ hp => .property hs hp
  | items hs => exact all_generateNamed h _ _ fun _ hp => .property hs hp
  | union hs => exact all_generateUnion h fun _ hv _ hp => .alternative hs hv hp

theorem all_next {rest : ModelRun} {afterUnion : Bool} {item : WorkItem}
    (h : run.work.All d.Expects) (hnext : run.next? afterUnion = some (item, rest)) :
    d.Expects item ∧ rest.work.All d.Expects := by
  rcases next?_cases hnext with ⟨p, ps, hp, rfl, rfl⟩ | ⟨g, gs, hg, rfl, rfl⟩
  · have hpending : ∀ q ∈ p :: ps, d.Expects (.schema q) := hp ▸ h.pending
    rw [List.forall_mem_cons] at hpending
    exact ⟨hpending.1, hpending.2, h.unions⟩
  · have hunions : ∀ q ∈ g :: gs, d.Expects (.union q) := hg ▸ h.unions
    rw [List.forall_mem_cons] at hunions
    exact ⟨hunions.1, h.pending, hunions.2⟩

end ModelRun

namespace Making

/-- The names that a making takes, unless they are taken. -/
def names : Making → List String
  | named key _ => [Name.className key]
  | union group _ => Name.unionName group.owner ::
      group.variants.map fun v => DerivedUnion.variantName group.owner (v.notes.title.getD "")

/-- What the types are made from is work that a document expects. -/
def Expected (d : Document) : Making → Prop
  | named key _ => ∃ s, d.Expects (.schema ⟨key, s⟩)
  | union group _ => d.Expects (.union group)

end Making

namespace ModelRun

variable {config : Config} {namespaceName : String} {d : Document} {run : ModelRun}

theorem expected_namedMakings {key : String} {s : Schema} (h : d.Expects (.schema ⟨key, s⟩))
    (run : ModelRun) (declared body : Schema) :
    ∀ m ∈ namedMakings config namespaceName run key declared body, m.Expected d := by
  rw [namedMakings]
  split
  · exact List.forall_mem_nil _
  · split
    · exact List.forall_mem_singleton.mpr ⟨s, h⟩
    · exact List.forall_mem_nil _

theorem expected_performMakings {item : WorkItem} (h : d.Expects item) (run : ModelRun) :
    ∀ m ∈ performMakings config namespaceName run item, m.Expected d := by
  cases item with
  | schema p => exact expected_namedMakings h run p.schema p.schema
  | union g =>
    rw [performMakings, unionMakings]
    split
    · exact List.forall_mem_singleton.mpr h
    · exact List.forall_mem_nil _
    · exact List.forall_mem_nil _

/-- Working until nothing waits makes types only from work that a document expects, if it begins
with such work. -/
theorem expected_settle (afterUnion : Bool) (run : ModelRun) : run.work.All d.Expects →
    (∀ m ∈ settleMakings config namespaceName afterUnion run, m.Expected d) ∧
      (settle config namespaceName afterUnion run).work.All d.Expects := by
  induction afterUnion, run using ModelRun.settle.induct config namespaceName with
  | case1 afterUnion run hnone =>
    intro h
    rw [settleMakings, settle, hnone]
    exact ⟨List.forall_mem_nil _, h⟩
  | case2 afterUnion run item rest hnext ih =>
    intro h
    obtain ⟨hitem, hrest⟩ := all_next h hnext
    obtain ⟨hmakings, hwork⟩ := ih (all_perform hrest hitem)
    rw [settleMakings, settle, hnext]
    exact ⟨List.forall_mem_append.mpr ⟨expected_performMakings hitem rest, hmakings⟩, hwork⟩

/-- The part of a schema that a type is made from opens up where the schema stands. -/
theorem opens_of_bodyOf {key : String} {s body : Schema} (h : d.Stands key s)
    (hbody : bodyOf s = some body) : d.Opens body := by
  have hself : ∀ p ∈ s.properties, d.Stands p.1 p.2 := fun _ hp => .property h hp
  obtain ⟨notes, shape⟩ := s
  rw [bodyOf, Schema.shape] at hbody
  cases shape with
  | object => exact Option.some.inj hbody ▸ hself
  | untyped => exact Option.some.inj hbody ▸ hself
  | enumeration => exact Option.some.inj hbody ▸ hself
  | array items =>
    cases items with
    | none => cases hbody
    | some items =>
      obtain ⟨_, hitems⟩ := Option.ite_none_right_eq_some.mp hbody
      cases hitems
      exact fun _ hp => .property h.items hp
  | _ => cases hbody

theorem expected_component (h : run.work.All d.Expects) {key : String} {s : Schema}
    (hs : d.Stands key s) :
    (∀ m ∈ componentMakings config namespaceName run key s, m.Expected d) ∧
      (generateComponent config namespaceName run key s).work.All d.Expects := by
  rw [componentMakings, generateComponent]
  split
  · exact ⟨List.forall_mem_nil _, h⟩
  · cases hbody : bodyOf s with
    | none => exact ⟨List.forall_mem_nil _, h⟩
    | some body =>
      exact ⟨expected_namedMakings (.schema hs) run s body,
        all_generateNamed h key s (opens_of_bodyOf hs hbody)⟩

theorem expected_declared {schemas : List (String × Schema)}
    (hschemas : ∀ p ∈ schemas, d.Stands p.1 p.2) (h : run.work.All d.Expects) :
    (∀ m ∈ declaredMakings config namespaceName run schemas, m.Expected d) ∧
      (takeDeclared config namespaceName run schemas).work.All d.Expects := by
  induction schemas generalizing run with
  | nil => exact ⟨List.forall_mem_nil _, h⟩
  | cons p rest ih =>
    rw [List.forall_mem_cons] at hschemas
    obtain ⟨hmakings, hwork⟩ := @expected_component config namespaceName _ _ h _ _ hschemas.1
    obtain ⟨hmore, hdone⟩ := ih hschemas.2 hwork
    exact ⟨List.forall_mem_append.mpr ⟨hmakings, hmore⟩, hdone⟩

/-! The names that are made. -/

theorem mem_names_freeVariants {taken : List String} {vs : List Variant} {name : String} :
    name ∈ taken ∨ name ∈ (DerivedUnion.freeVariants taken vs).map (·.name) ↔
      name ∈ taken ∨ name ∈ vs.map (·.name) := by
  induction vs generalizing taken with
  | nil => exact Iff.rfl
  | cons v rest ih =>
    rw [DerivedUnion.freeVariants, List.map_cons, List.mem_cons]
    split
    · next htaken =>
      have hname : name = v.name → name ∈ taken := fun h => h ▸ List.contains_iff_mem.mp htaken
      rw [ih, ← or_assoc, or_iff_left_of_imp hname]
    · have hrest := @ih (v.name :: taken)
      rw [List.mem_cons, or_assoc, or_assoc] at hrest
      rw [List.map_cons, List.mem_cons, or_left_comm, hrest, or_left_comm]

/-- The names that are taken are those that the makings of the run ask for: a name that is not free
is taken already. -/
theorem invariant_names : Invariant config namespaceName fun history run =>
    ∀ name, name ∈ run.registry.names ↔ name ∈ history.flatMap Making.names := by
  constructor
  case start => exact fun _ => Iff.rfl
  case note => exact fun _ h => h
  case commit => exact fun _ h => h
  case take => exact fun _ _ h => h
  case named =>
    intro history run key body notes type code found h _ _ name
    rw [List.flatMap_append, List.mem_append, List.flatMap_singleton, ← h]
    show name ∈ (run.registry.claim (Name.className key)).names ↔ _
    rw [Registry.mem_claim, Making.names, List.mem_singleton]
  case union =>
    intro history run group u found h hmake name
    obtain ⟨_, vs, rfl, hvs⟩ := of_makeUnion hmake
    have hvariants : vs.map (·.name) = group.variants.map fun v =>
        DerivedUnion.variantName group.owner (v.notes.title.getD "") := by
      rw [← List.forall₂_eq_eq_eq, List.forall₂_map_left_iff, List.forall₂_map_right_iff]
      exact List.Forall₂.flip (hvs.imp fun _ _ hv => hv.1)
    rw [List.flatMap_append, List.mem_append, List.flatMap_singleton, ← h, Making.names,
      List.mem_cons, ← hvariants]
    refine (Registry.mem_foldl_claim _ _).trans ?_
    show (name ∈ (run.registry.claim (Name.unionName group.owner)).names ∨
      name ∈ (DerivedUnion.freeVariants run.registry.names vs).map (·.name)) ↔ _
    -- A variant that is left out has a name that is taken, so leaving it out changes no name.
    rw [Registry.mem_claim, or_right_comm, mem_names_freeVariants, or_right_comm, or_assoc]

end ModelRun

namespace Document

variable {config : Config} {d : Document}

theorem all_found_foldl {info : Info} {endpoints : List Endpoint} (h : endpoints ⊆ d.endpoints)
    {w : Workshop} (hw : w.found.All d.Expects) :
    (endpoints.foldl (Workshop.addEndpoint info) w).found.All d.Expects := by
  induction endpoints generalizing w with
  | nil => exact hw
  | cons e rest ih =>
    rw [List.cons_subset] at h
    refine ih h.2 ?_
    rcases ho : (planMethod info e).outcome with p | ⟨_ | m, found⟩
    · simpa [Workshop.addEndpoint, ho] using hw
    · simpa [Workshop.addEndpoint, ho] using hw
    · have hfound := Resolving.Gives.of_outcome (adds_planMethod info h.1) ho
      simpa [Workshop.addEndpoint, ho] using hw.append hfound

theorem all_found_generate : (Clients.generate config d).found.All d.Expects := by
  have hsegments : ∀ (segments : List String) (c : Clients), c.found.All d.Expects →
      (segments.foldl (takeSegment config d) c).found.All d.Expects := by
    intro segments
    induction segments with
    | nil => exact fun _ h => h
    | cons segment rest ih =>
      intro c h
      refine ih _ ?_
      by_cases haccepts : d.accepts config (d.plannedClient segment) = true
      · rw [takeSegment_of_accepts c haccepts]
        have hunder : d.endpointsUnder segment ⊆ d.endpoints := List.filter_sublist.subset
        exact h.append (all_found_foldl hunder Discovered.all_empty)
      · rw [takeSegment_of_rejects c haccepts]
        exact h
  rw [generate_eq]
  exact hsegments d.segments _ Discovered.all_empty

variable (config d)

/-- What the run of a document makes types from, in order. -/
def makings : List Making :=
  ModelRun.declaredMakings config d.info.modelsNamespace {} d.schemas ++
    ModelRun.settleMakings config d.info.modelsNamespace false
      (ModelRun.takeDeclared config d.info.modelsNamespace {} d.schemas) ++
    ModelRun.settleMakings config d.info.modelsNamespace false
      ((ModelRun.generateComponents config d.info.modelsNamespace {} d.schemas).commit
        (Clients.generate config d).found)

theorem reached_makings :
    ModelRun.Reached config d.info.modelsNamespace (d.makings config) (d.modelRun config) :=
  .discovered _ (.components _ .start)

/-- The types of the run of a document have the names of what they are made from. -/
theorem mem_typeNames_modelRun (name : String) :
    name ∈ (d.modelRun config).typeNames ↔ ∃ m ∈ d.makings config, name ∈ m.names := by
  have hreached := reached_makings config d
  rw [← List.mem_flatMap, ← hreached.of_invariant ModelRun.invariant_names,
    hreached.of_invariant ModelRun.invariant_namesTaken]

/-- A run makes types only from what stands in its document. -/
theorem expected_makings : ∀ m ∈ d.makings config, m.Expected d := by
  have hcomponents : ∀ p ∈ d.schemas, d.Stands p.1 p.2 := fun p hp => .component hp
  obtain ⟨hdeclared, htaken⟩ := @ModelRun.expected_declared config d.info.modelsNamespace _ {} _
    hcomponents Discovered.all_empty
  obtain ⟨hsettled, hwork⟩ := @ModelRun.expected_settle config d.info.modelsNamespace _ false _
    htaken
  have hcommitted : ((ModelRun.generateComponents config d.info.modelsNamespace {}
      d.schemas).commit (Clients.generate config d).found).work.All d.Expects :=
    hwork.append all_found_generate
  obtain ⟨hasked, _⟩ := ModelRun.expected_settle false _ hcommitted
  rw [makings]
  exact List.forall_mem_append.mpr ⟨List.forall_mem_append.mpr ⟨hdeclared, hsettled⟩, hasked⟩

variable {config d}

theorem derives_of_mem_names {m : Making} (h : m.Expected d) {name : String} (hn : name ∈ m.names) :
    d.Derives name := by
  cases m with
  | named key body =>
    obtain ⟨s, hs⟩ := h
    rw [Making.names, List.mem_singleton] at hn
    subst hn
    cases hs with
    | schema hs => exact .schema hs
    | items hs =>
      rw [Resolving.className_itemSuffix]
      exact .items hs
  | union group taken =>
    cases h with
    | union hs =>
      rcases List.mem_cons.mp hn with rfl | hn
      · exact .marker hs
      · obtain ⟨v, hv, rfl⟩ := List.mem_map.mp hn
        exact .variant hs hv

end Document

end ApiForge
