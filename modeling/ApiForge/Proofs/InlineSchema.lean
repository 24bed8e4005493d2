import ApiForge.Proofs.Boxing
import ApiForge.Proofs.FirstMade
import ApiForge.Proofs.References

/-!
The records behind the objects that operations declare in place. A method names such an object after
its verb and path only, so that objects of several operations, or of the document, may share a name;
the record of the name is made from the one that is taken up first. Main statement:
`inline_schemas_served`.
-/

namespace ApiForge

open Client ModelRun

/-- An object declared in place has a type named after its key, and waits under the key. -/
theorem Resolving.TypeOf.inlineObject {key : String} {schema : Schema} {t : ModelType}
    {d : Discovered} (h : TypeOf key schema t d) (hinline : schema.isInlineObject = true) :
    t = .reference (Name.className key) ∧ ⟨key, schema⟩ ∈ d.pending := by
  cases h with
  | object => exact ⟨rfl, List.mem_singleton_self _⟩
  | _ => cases hinline

theorem Resolving.ResolvesTo.inlineObject {key : String} {schema : Schema} {t : ModelType}
    {found : Discovered} (h : ResolvesTo (property key schema) t found)
    (hinline : schema.isInlineObject = true) :
    t = .reference (Name.className key) ∧ ⟨key, schema⟩ ∈ found.pending := by
  obtain ⟨d, hd, hwithin⟩ := h
  obtain ⟨htype, hpending⟩ := ((gives_typeOf key schema).of_outcome hd).inlineObject hinline
  exact ⟨htype, hwithin.pending hpending⟩

namespace Client

variable {e : Endpoint} {m : Method} {found : Discovered} {schema : Schema}

/-- What a method whose answer has a schema gives back. -/
theorem PayloadOf.of_response {payload : Payload} {types : List ModelType}
    (h : PayloadOf e payload types found) (hresponse : e.responseSchema = some schema) :
    ∃ t, (payload = .json t.expression ∨ payload = .optionalJson t.expression) ∧
      Resolving.ResolvesTo (Resolving.property (e.stem ++ "Response") schema) t found := by
  cases h with
  | empty response payload_eq =>
    rw [hresponse] at response
    cases response
  | @value _ t response mem payload_eq type =>
    rw [hresponse] at response
    cases response
    exact ⟨t, payload_eq, type⟩

/-- A body that is an object declared in place is an argument whose type is named after the
operation. -/
theorem Signature.inlineBody (h : Signature e m found) (hrequest : e.requestSchema = some schema)
    (hinline : schema.isInlineObject = true) :
    (∃ a ∈ m.arguments, a.place = .body) ∧ ∀ a ∈ m.arguments, a.place = .body →
      a.type = Name.className (e.stem ++ "Request") ∧
        ⟨e.stem ++ "Request", schema⟩ ∈ found.pending := by
  refine ⟨h.body (by rw [hrequest]; exact Option.some_ne_none schema), ?_⟩
  intro a ha hplace
  obtain ⟨t, _, htype, hargument⟩ := h.argument a ha
  obtain ⟨rfl, hpending⟩ := (hargument.of_body hplace hrequest).inlineObject hinline
  exact ⟨htype, hpending⟩

/-- An answer that is an object declared in place is given back as a type named after the
operation. -/
theorem Signature.inlineAnswer (h : Signature e m found)
    (hresponse : e.responseSchema = some schema) (hinline : schema.isInlineObject = true) :
    (m.payload = .json (Name.className (e.stem ++ "Response")) ∨
        m.payload = .optionalJson (Name.className (e.stem ++ "Response"))) ∧
      ⟨e.stem ++ "Response", schema⟩ ∈ found.pending := by
  obtain ⟨t, hpayload, htype⟩ := h.payload.of_response hresponse
  obtain ⟨rfl, hpending⟩ := htype.inlineObject hinline
  exact ⟨hpayload, hpending⟩

end Client

/-- A record is there after boxing with the properties that it had. -/
theorem ModelType.exists_record_of_boxAll {types : List ModelType} {r : Record}
    (h : .record r ∈ boxAll types) :
    ∃ before, .record before ∈ types ∧ before.name = r.name ∧
      before.fields.map (·.wireName) = r.fields.map (·.wireName) := by
  obtain ⟨t, ht, hbox⟩ := mem_boxAll.mp h
  cases t with
  | record before =>
    cases hbox
    refine ⟨before, ht, rfl, ?_⟩
    simp [Function.comp_def]
  | _ => cases hbox

namespace Document

variable (config : Config) (d : Document)

/-- The schemas that the run of a document takes up, in order: its own and what they give rise to,
then what its clients ask for and what that gives rise to. -/
def takenUp : List Candidate :=
  declaredCandidates config d.schemas ++
    settleCandidates config d.info.modelsNamespace false
      (takeDeclared config d.info.modelsNamespace {} d.schemas) ++
    settleCandidates config d.info.modelsNamespace false
      ((generateComponents config d.info.modelsNamespace {} d.schemas).commit
        (Clients.generate config d).found)

/-- A schema with a key is taken up as it is, and among some types, a record named after the key has
the properties of the first schema of its name that a type can be made from. -/
structure Served (types : List ModelType) (key : String) (schema : Schema) : Prop where
  taken : ⟨key, schema, schema⟩ ∈ d.takenUp config
  first : ∀ r, .record r ∈ types → r.name = Name.className key → ∃ c,
    Candidate.firstFor config d.info.modelsNamespace (d.takenUp config) r.name = some c ∧
      r.fields.map (·.wireName) = c.body.properties.map Prod.fst
  /-- These are the properties of the schema itself where all that could be made have the same. -/
  own : (∀ c ∈ d.takenUp config, c.name = Name.className key →
      c.isMakeable config d.info.modelsNamespace = true →
      c.body.properties.map Prod.fst = schema.properties.map Prod.fst) →
    ∀ r, .record r ∈ types → r.name = Name.className key →
      r.fields.map (·.wireName) = schema.properties.map Prod.fst

variable {config d}

theorem firstMade_modelRun :
    FirstMade config d.info.modelsNamespace (d.takenUp config) (d.modelRun config) :=
  FirstMade.generateDiscovered (FirstMade.start.generateComponents d.schemas)
    (Clients.generate config d).found

theorem mem_takenUp {p : PendingSchema} (h : p ∈ (Clients.generate config d).found.pending) :
    ⟨p.key, p.schema, p.schema⟩ ∈ d.takenUp config :=
  List.mem_append_right _ (mem_settleCandidates false _ p (List.mem_append_right _ h))

/-- A record that comes out is made from the first schema of its name that can be made. -/
theorem firstFor_of_mem_types {r : Record}
    (h : .record r ∈ ModelType.boxAll (d.modelRun config).types) :
    ∃ c, Candidate.firstFor config d.info.modelsNamespace (d.takenUp config) r.name = some c ∧
      r.fields.map (·.wireName) = c.body.properties.map Prod.fst := by
  obtain ⟨before, hbefore, hname, hwire⟩ := ModelType.exists_record_of_boxAll h
  rw [← hname, ← hwire]
  exact firstMade_modelRun.first before hbefore

theorem served_of_mem_pending {key : String} {schema : Schema}
    (h : ⟨key, schema⟩ ∈ (Clients.generate config d).found.pending) :
    Served config d (ModelType.boxAll (d.modelRun config).types) key schema where
  taken := mem_takenUp h
  first r hr _ := firstFor_of_mem_types hr
  own := by
    intro hsame r hr hname
    obtain ⟨c, hfirst, hwire⟩ := firstFor_of_mem_types hr
    obtain ⟨hc, hcname, hmakeable⟩ := Candidate.mem_of_firstFor hfirst
    rw [hwire]
    exact hsame c hc (hcname.trans hname) hmakeable

/-- When the body or the answer of an operation is an object declared in place, its method names it
after the verb and the path of the operation. The object is taken up under this name; if a record
bears the name, it is made from the first schema of the name that one can be made from. -/
theorem inline_schemas_served {g : Generated} (h : d.generate config = .ok g) {c : PlannedClient}
    (hc : c ∈ d.acceptedClients config) {m : Method} (hm : m ∈ c.methods) {schema : Schema}
    (hinline : schema.isInlineObject = true) :
    (m.endpoint.requestSchema = some schema →
      (∃ a ∈ m.arguments, a.place = .body) ∧
      (∀ a ∈ m.arguments, a.place = .body →
        a.type = Name.className (m.endpoint.stem ++ "Request")) ∧
      Served config d g.types (m.endpoint.stem ++ "Request") schema) ∧
    (m.endpoint.responseSchema = some schema →
      (m.payload = .json (Name.className (m.endpoint.stem ++ "Response")) ∨
        m.payload = .optionalJson (Name.className (m.endpoint.stem ++ "Response"))) ∧
      Served config d g.types (m.endpoint.stem ++ "Response") schema) := by
  obtain ⟨_, rfl⟩ := generate_eq_ok_iff.mp h
  have hsignature := signature_of_mem_acceptedClients hc hm
  constructor
  · intro hrequest
    obtain ⟨⟨a, ha, hplace⟩, hbody⟩ := hsignature.inlineBody hrequest hinline
    exact ⟨⟨a, ha, hplace⟩, fun b hb hp => (hbody b hb hp).1,
      served_of_mem_pending (hbody a ha hplace).2⟩
  · intro hresponse
    obtain ⟨hpayload, hpending⟩ := hsignature.inlineAnswer hresponse hinline
    exact ⟨hpayload, served_of_mem_pending hpending⟩

end Document

def ModelType.recordNames : ModelType → Option (String × List String)
  | record r => some (r.name, r.fields.map (·.wireName))
  | _ => none

theorem ModelType.mem_recordNames {types : List ModelType} {name : String} {wire : List String} :
    (name, wire) ∈ types.filterMap recordNames ↔
      ∃ r, .record r ∈ types ∧ r.name = name ∧ r.fields.map (·.wireName) = wire := by
  rw [List.mem_filterMap]
  constructor
  · rintro ⟨t, ht, hnames⟩
    cases t with
    | record r =>
      cases hnames
      exact ⟨r, ht, rfl, rfl⟩
    | _ => cases hnames
  · rintro ⟨r, hr, rfl, rfl⟩
    exact ⟨_, hr, rfl⟩

def Schema.objectWith (property : String) : Schema :=
  .node {} (.object [(property, .node {} (.primitive "string" none))] [])

/-- Of a single media type the schema is taken, whatever it is. -/
theorem Content.schema_singleton (media : String) (t : MediaType) :
    Content.schema [(media, t)] = t.schema := by
  rw [Content.schema, Content.preferred, List.find?_singleton]
  dsimp only
  split <;> rfl

def Operation.taking (schema : Schema) : Operation where
  requestBody := some { content := [("application/json", { schema := some schema })] }
  responses := [("200", {})]

def PathItem.taking (schema : Schema) : PathItem where
  declared := [(.post, Operation.taking schema)]

namespace Document

/-- A document with two paths that end alike, each with a body of its own. -/
def ordersTwice : Document where
  openapi := "3.0.0"
  info := { title := "Test", version := "1.0" }
  paths := [
    ("/a/orders", .taking (.objectWith "amount")),
    ("/b/orders", .taking (.objectWith "total"))]

def laterOrders : Endpoint :=
  ⟨"/b/orders", .taking (.objectWith "total"), .post, .taking (.objectWith "total")⟩

theorem requestSchema_laterOrders : laterOrders.requestSchema = some (.objectWith "total") :=
  Content.schema_singleton _ _

theorem exists_laterOrders : ∃ c ∈ ordersTwice.acceptedClients .unchecked, ∃ m ∈ c.methods,
    m.endpoint = laterOrders :=
  exists_method (List.mem_cons_of_mem _ List.mem_cons_self) (by decide +kernel) rfl

theorem exists_generate_ordersTwice : ∃ g, ordersTwice.generate .unchecked = .ok g ∧
    g.types = ModelType.boxAll (ordersTwice.modelRun .unchecked).types :=
  ⟨_, generate_eq_ok_iff.mpr ⟨rfl, rfl⟩, rfl⟩

theorem ordersTwice_served : ∃ g, ordersTwice.generate .unchecked = .ok g ∧
    Served .unchecked ordersTwice g.types (laterOrders.stem ++ "Request")
      (.objectWith "total") := by
  obtain ⟨g, hgenerate, _⟩ := exists_generate_ordersTwice
  obtain ⟨c, hc, m, hm, hendpoint⟩ := exists_laterOrders
  have hinline : (Schema.objectWith "total").isInlineObject = true := rfl
  have hserved := (inline_schemas_served hgenerate hc hm hinline).1
  rw [hendpoint] at hserved
  exact ⟨g, hgenerate, (hserved requestSchema_laterOrders).2.2⟩

/-- The body of the second operation is an argument of a type that has the property of the body of
the first. -/
theorem ordersTwice_shared : ∃ g, ordersTwice.generate .unchecked = .ok g ∧
    ∃ c ∈ ordersTwice.acceptedClients .unchecked, ∃ m ∈ c.methods,
      m.endpoint.requestSchema = some (.objectWith "total") ∧
      (Schema.objectWith "total").isInlineObject = true ∧
      ∃ a ∈ m.arguments, a.place = .body ∧
        ∃ r, .record r ∈ g.types ∧ r.name = a.type ∧
          r.fields.map (·.wireName) ≠ (Schema.objectWith "total").properties.map Prod.fst := by
  obtain ⟨g, hgenerate, htypes⟩ := exists_generate_ordersTwice
  obtain ⟨c, hc, m, hm, hendpoint⟩ := exists_laterOrders
  have hrequest : m.endpoint.requestSchema = some (.objectWith "total") := by
    rw [hendpoint, requestSchema_laterOrders]
  obtain ⟨⟨a, ha, hplace⟩, hbody⟩ :=
    (signature_of_mem_acceptedClients hc hm).inlineBody hrequest rfl
  have htype : a.type = "PostOrdersRequest" := by
    rw [(hbody a ha hplace).1, hendpoint]
    decide
  have hrecord : ("PostOrdersRequest", ["amount"]) ∈
      (ModelType.boxAll (ordersTwice.modelRun .unchecked).types).filterMap
        ModelType.recordNames := by
    decide +kernel
  obtain ⟨r, hr, hname, hwire⟩ := ModelType.mem_recordNames.mp hrecord
  refine ⟨g, hgenerate, c, hc, m, hm, hrequest, rfl, a, ha, hplace, r, ?_, ?_, ?_⟩
  · rwa [htypes]
  · rw [hname, htype]
  · rw [hwire]
    decide

end Document

end ApiForge
