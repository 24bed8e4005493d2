import ApiForge.Proofs.NameOrigin
import ApiForge.Proofs.ReadTables

/-!
The schemas of a document that is read from text. Whatever a schema lists as its values has been
read as a value of any kind, in the schema itself and in those inside it. Main statement: all
schemas that stand in a document list proper values (`Document.Lists.stands`).
-/

namespace ApiForge

/-- The enumerations in a schema as it is written list proper values. -/
inductive RawSchema.Lists : RawSchema → Prop
  | intro {raw : RawSchema} (enumeration : ∀ vs, raw.enumeration = some vs → ∀ v ∈ vs, v.Proper)
      (properties : ∀ ps, raw.properties = some ps → ∀ p ∈ ps, Lists p.2)
      (items : ∀ r, raw.items = some r → Lists r)
      (oneOf : ∀ rs, raw.oneOf = some rs → ∀ r ∈ rs, Lists r) : Lists raw

/-- The enumerations in a schema list proper values. -/
inductive Schema.Lists : Schema → Prop
  | intro {s : Schema} (enumeration : ∀ vs, s.shape = .enumeration vs → ∀ v ∈ vs, v.Proper)
      (properties : ∀ p ∈ s.properties, Lists p.2)
      (items : ∀ t, s.shape = .array (some t) → Lists t)
      (oneOf : ∀ ts, s.shape = .oneOf ts → ∀ t ∈ ts, Lists t) : Lists s

namespace Draft

variable {α : Type} {P : α → Prop} {read : Draft → Except Fault α}
  (hread : ∀ d a, d.Proper → read d = .ok a → P a)

include hread

theorem forall_mem_listOf {d : Draft} (hd : d.Proper) {as : List α} (h : d.listOf read = .ok as) :
    ∀ a ∈ as, P a := by
  obtain ⟨ds, hds, h⟩ := bind_eq_ok h
  exact forall_mem_of_mapM hread (hd.items _ hds) h

theorem forall_mem_foldlM {key : Draft → Except Fault String} {entries : List (Draft × Draft)}
    (hentries : ∀ e ∈ entries, e.2.Proper) {t u : Entries α} (ht : ∀ p ∈ t, P p.2)
    (h : entries.foldlM (fun t (k, v) => do
      let name ← key k
      return t.put name (← read v)) t = .ok u) : ∀ p ∈ u, P p.2 := by
  induction entries generalizing t with
  | nil =>
    cases h
    exact ht
  | cons e entries ih =>
    rw [List.forall_mem_cons] at hentries
    rw [List.foldlM_cons] at h
    obtain ⟨next, hnext, h⟩ := bind_eq_ok h
    obtain ⟨name, -, hnext⟩ := bind_eq_ok hnext
    obtain ⟨a, ha, hnext⟩ := bind_eq_ok hnext
    cases hnext
    exact ih hentries.2 (Entries.forall_mem_put ht (hread _ a hentries.1 ha) name) h

theorem forall_mem_tableOf {d : Draft} (hd : d.Proper) {t : Entries α}
    (h : d.tableOf read = .ok t) : ∀ p ∈ t, P p.2 := by
  obtain ⟨entries, hentries, h⟩ := bind_eq_ok h
  exact forall_mem_foldlM hread (hd.entries _ hentries) (List.forall_mem_nil _) h

theorem forall_mem_statusTableOf {d : Draft} (hd : d.Proper) {t : Entries α}
    (h : d.statusTableOf read = .ok t) : ∀ p ∈ t, P p.2 := by
  obtain ⟨entries, hentries, h⟩ := bind_eq_ok h
  exact forall_mem_foldlM hread (hd.entries _ hentries) (List.forall_mem_nil _) h

theorem of_optional_some {d : Draft} (hd : d.Proper) {a? : Option α}
    (h : d.optional read = .ok a?) : ∀ a, a? = some a → P a := by
  rintro a rfl
  exact hread d a hd (of_optional h)

end Draft

open Draft

namespace RawSchema

theorem lists_setMember {read : Draft → Except Fault RawSchema}
    (hread : ∀ d raw, d.Proper → read d = .ok raw → raw.Lists) (raw : RawSchema) (name : String)
    (d : Draft) (next : RawSchema) (hd : d.Proper) (hraw : raw.Lists)
    (h : setMember read raw name d = .ok next) : next.Lists := by
  obtain ⟨henumeration, hproperties, hitems, honeOf⟩ := hraw
  unfold setMember at h
  split at h
  case h_11 =>
    obtain ⟨ps, hps, h⟩ := bind_eq_ok h
    cases h
    refine ⟨henumeration, ?_, hitems, honeOf⟩
    exact of_optional_some (P := fun ps => ∀ p ∈ ps, p.2.Lists)
      (fun d ps hd => forall_mem_tableOf hread hd) hd hps
  case h_12 =>
    obtain ⟨vs, hvs, h⟩ := bind_eq_ok h
    cases h
    refine ⟨?_, hproperties, hitems, honeOf⟩
    exact of_optional_some (P := fun vs => ∀ v ∈ vs, v.Proper)
      (fun d vs hd => forall_mem_listOf (fun d v hd hv => hd.value _ v hv) hd) hd hvs
  case h_13 =>
    obtain ⟨r, hr, h⟩ := bind_eq_ok h
    cases h
    exact ⟨henumeration, hproperties, of_optional_some hread hd hr, honeOf⟩
  case h_14 =>
    obtain ⟨rs, hrs, h⟩ := bind_eq_ok h
    cases h
    refine ⟨henumeration, hproperties, hitems, ?_⟩
    exact of_optional_some (P := fun rs => ∀ r ∈ rs, r.Lists)
      (fun d rs hd => forall_mem_listOf hread hd) hd hrs
  case h_15 => cases h
  all_goals
    obtain ⟨_, -, h⟩ := bind_eq_ok h
    cases h
    exact ⟨henumeration, hproperties, hitems, honeOf⟩

theorem lists_readWithin (depth : Nat) (d : Draft) (raw : RawSchema) (hd : d.Proper)
    (h : readWithin depth d = .ok raw) : raw.Lists := by
  have hstart : ({} : RawSchema).Lists := ⟨nofun, nofun, nofun, nofun⟩
  induction depth generalizing d raw with
  | zero =>
    rw [readWithin] at h
    exact record_induction (lists_setMember (fun _ _ _ h => by cases h)) hd hstart h
  | succ depth ih =>
    rw [readWithin] at h
    exact record_induction (lists_setMember ih) hd hstart h

end RawSchema

namespace Shape

variable {σ : Type} {P : σ → Prop}

/-- The values that a shape lists are proper, and the schemas inside it have a property. -/
def Lists (P : σ → Prop) : Shape σ → Prop
  | enumeration values => ∀ v ∈ values, v.Proper
  | oneOf variants => ∀ s ∈ variants, P s
  | array items => ∀ s, items = some s → P s
  | object properties _ => ∀ p ∈ properties, P p.2
  | _ => True

theorem lists_ofKind {kind format : Option String} {items : Option σ}
    {properties : List (String × σ)} {required : List String} (hitems : ∀ s, items = some s → P s)
    (hproperties : ∀ p ∈ properties, P p.2) :
    (ofKind kind format items properties required).Lists P := by
  unfold ofKind
  split
  · exact hitems
  · exact hproperties
  · trivial
  · split
    · trivial
    · exact hproperties

theorem lists_decide {reference : Option String} {values : List Json} {variants : List σ}
    {byKind : Shape σ} (hvalues : ∀ v ∈ values, v.Proper) (hvariants : ∀ s ∈ variants, P s)
    (hkind : byKind.Lists P) : (Shape.decide reference values variants byKind).Lists P := by
  unfold Shape.decide
  split
  · trivial
  · split_ifs
    · exact hvalues
    · exact hvariants
    · exact hkind

end Shape

namespace Schema

theorem lists_of_shape {notes : Annotations} {shape : Shape Schema} (h : shape.Lists Lists) :
    (node notes shape).Lists := by
  cases shape with
  | enumeration values =>
    refine ⟨?_, List.forall_mem_nil _, nofun, nofun⟩
    rintro _ ⟨⟩
    exact h
  | oneOf variants =>
    refine ⟨nofun, List.forall_mem_nil _, nofun, ?_⟩
    rintro _ ⟨⟩
    exact h
  | array items =>
    refine ⟨nofun, List.forall_mem_nil _, ?_, nofun⟩
    rintro t ⟨⟩
    exact h t rfl
  | object properties required => exact ⟨nofun, h, nofun, nofun⟩
  | _ => exact ⟨nofun, List.forall_mem_nil _, nofun, nofun⟩

theorem forall_mem_ofRaws {rs : List RawSchema} (h : ∀ r ∈ rs, (ofRaw r).Lists) :
    ∀ s ∈ ofRaws rs, s.Lists := by
  induction rs with
  | nil => exact List.forall_mem_nil _
  | cons r rs ih =>
    rw [List.forall_mem_cons] at h
    exact List.forall_mem_cons.mpr ⟨h.1, ih h.2⟩

theorem forall_mem_ofMembers {ps : List (String × RawSchema)}
    (h : ∀ p ∈ ps, (ofRaw p.2).Lists) : ∀ p ∈ ofMembers ps, p.2.Lists := by
  induction ps with
  | nil => exact List.forall_mem_nil _
  | cons p ps ih =>
    rw [List.forall_mem_cons] at h
    exact List.forall_mem_cons.mpr ⟨h.1, ih h.2⟩

/-- Deciding the shapes of a schema and of those inside it lists no other values. -/
theorem lists_ofRaw {raw : RawSchema} (h : raw.Lists) : (ofRaw raw).Lists := by
  induction h with
  | @intro raw henumeration _ _ _ hproperties hitems honeOf =>
    obtain ⟨title, description, nullable, default, deprecated, required, types, format, reference,
      properties, enumeration, items, oneOf⟩ := raw
    refine lists_of_shape (Shape.lists_decide ?_ ?_ (Shape.lists_ofKind ?_ ?_))
    · cases enumeration with
      | none => exact List.forall_mem_nil _
      | some values => exact henumeration values rfl
    · cases oneOf with
      | none => exact List.forall_mem_nil _
      | some rs => exact forall_mem_ofRaws (honeOf rs rfl)
    · cases items with
      | none => exact nofun
      | some r =>
        rintro _ ⟨⟩
        exact hitems r rfl
    · cases properties with
      | none => exact List.forall_mem_nil _
      | some ps => exact forall_mem_ofMembers (hproperties ps rfl)

theorem lists_read {d : Draft} (hd : d.Proper) {s : Schema} (h : Schema.read d = .ok s) :
    s.Lists := by
  obtain ⟨raw, hraw, h⟩ := bind_eq_ok h
  cases h
  exact lists_ofRaw (RawSchema.lists_readWithin _ d raw hd hraw)

end Schema

/-! The schemas of paths. -/

def Parameter.Lists (p : Parameter) : Prop := ∀ s, p.schema = some s → s.Lists

theorem Parameter.lists_read {d : Draft} (hd : d.Proper) {p : Parameter}
    (h : Parameter.read d = .ok p) : p.Lists := by
  obtain ⟨read, hread, h⟩ := bind_eq_ok h
  have hschema : read.rest.Lists := by
    refine record_induction (P := fun p => p.rest.Lists) ?_ hd nofun hread
    intro p name d next hd hp hnext
    unfold setMember at hnext
    split at hnext
    case h_6 =>
      obtain ⟨s?, hs, hnext⟩ := bind_eq_ok hnext
      cases hnext
      exact of_optional_some (fun d s hd hs => Schema.lists_read hd hs) hd hs
    case h_7 => cases hnext
    all_goals
      obtain ⟨_, -, hnext⟩ := bind_eq_ok hnext
      cases hnext
      exact hp
  split at h
  · cases h
    exact hschema
  · cases h

def Content.Lists (content : Content) : Prop := ∀ m ∈ content, ∀ s, m.2.schema = some s → s.Lists

theorem Content.Lists.schema {content : Content} (h : content.Lists) {s : Schema}
    (hs : content.schema = some s) : s.Lists := by
  obtain ⟨⟨media, type⟩, hpreferred, hs⟩ := Option.bind_eq_some_iff.mp hs
  refine h (media, type) ?_ s hs
  rcases Option.or_eq_some_iff.mp hpreferred with hfind | ⟨-, hhead⟩
  · exact List.mem_of_find?_eq_some hfind
  · exact List.mem_of_head? hhead

theorem MediaType.lists_read {d : Draft} (hd : d.Proper) {m : MediaType}
    (h : MediaType.read d = .ok m) : ∀ s, m.schema = some s → s.Lists := by
  refine record_induction (P := fun m => ∀ s, m.schema = some s → s.Lists) ?_ hd nofun h
  intro m name d next hd hm hnext
  split at hnext
  · obtain ⟨s?, hs, hnext⟩ := bind_eq_ok hnext
    cases hnext
    exact of_optional_some (fun d s hd hs => Schema.lists_read hd hs) hd hs
  · cases hnext

theorem RequestBody.lists_read {d : Draft} (hd : d.Proper) {body : RequestBody}
    (h : RequestBody.read d = .ok body) : body.content.Lists := by
  refine record_induction (P := fun body => body.content.Lists) ?_ hd nofun h
  intro body name d next hd hbody hnext
  split at hnext
  · obtain ⟨_, -, hnext⟩ := bind_eq_ok hnext
    cases hnext
    exact hbody
  · obtain ⟨_, -, hnext⟩ := bind_eq_ok hnext
    cases hnext
    exact hbody
  · obtain ⟨content, hcontent, hnext⟩ := bind_eq_ok hnext
    cases hnext
    exact forall_mem_tableOf (fun d m hd hm => MediaType.lists_read hd hm) hd hcontent
  · cases hnext

theorem Response.lists_read {d : Draft} (hd : d.Proper) {response : Response}
    (h : Response.read d = .ok response) : response.content.Lists := by
  refine record_induction (P := fun response => response.content.Lists) ?_ hd nofun h
  intro response name d next hd hresponse hnext
  split at hnext
  · obtain ⟨_, -, hnext⟩ := bind_eq_ok hnext
    cases hnext
    exact hresponse
  · obtain ⟨content, hcontent, hnext⟩ := bind_eq_ok hnext
    cases hnext
    exact forall_mem_tableOf (fun d m hd hm => MediaType.lists_read hd hm) hd hcontent
  · cases hnext

structure Operation.Lists (op : Operation) : Prop where
  parameters : ∀ p ∈ op.parameters, p.Lists
  requestBody : ∀ body, op.requestBody = some body → body.content.Lists
  responses : ∀ r ∈ op.responses, r.2.content.Lists

theorem Operation.lists_read {d : Draft} (hd : d.Proper) {op : Operation}
    (h : Operation.read d = .ok op) : op.Lists := by
  have hstart : ({} : Operation).Lists := ⟨nofun, nofun, nofun⟩
  refine record_induction (P := Operation.Lists) ?_ hd hstart h
  intro op name d next hd hop hnext
  unfold setMember at hnext
  split at hnext
  case h_5 =>
    obtain ⟨parameters, hparameters, hnext⟩ := bind_eq_ok hnext
    cases hnext
    have hlists := forall_mem_listOf (fun d p hd hp => Parameter.lists_read hd hp) hd hparameters
    exact ⟨hlists, hop.requestBody, hop.responses⟩
  case h_6 =>
    obtain ⟨body, hbody, hnext⟩ := bind_eq_ok hnext
    cases hnext
    have hlists := of_optional_some (fun d b hd hb => RequestBody.lists_read hd hb) hd hbody
    exact ⟨hop.parameters, hlists, hop.responses⟩
  case h_7 =>
    obtain ⟨responses, hresponses, hnext⟩ := bind_eq_ok hnext
    cases hnext
    have hlists :=
      forall_mem_statusTableOf (fun d r hd hr => Response.lists_read hd hr) hd hresponses
    exact ⟨hop.parameters, hop.requestBody, hlists⟩
  case h_8 => cases hnext
  all_goals
    obtain ⟨_, -, hnext⟩ := bind_eq_ok hnext
    cases hnext
    exact ⟨hop.parameters, hop.requestBody, hop.responses⟩

structure PathItem.Lists (item : PathItem) : Prop where
  declared : ∀ p ∈ item.declared, p.2.Lists
  parameters : ∀ p ∈ item.parameters, p.Lists

theorem PathItem.lists_read {d : Draft} (hd : d.Proper) {item : PathItem}
    (h : PathItem.read d = .ok item) : item.Lists := by
  have hstart : ({} : PathItem).Lists := ⟨nofun, nofun⟩
  refine record_induction (P := PathItem.Lists) ?_ hd hstart h
  intro item name d next hd hitem hnext
  unfold setMember at hnext
  split at hnext
  · next verb _ =>
    obtain ⟨op?, hop, hnext⟩ := bind_eq_ok hnext
    cases op? with
    | none =>
      cases hnext
      exact hitem
    | some op =>
      cases hnext
      refine ⟨List.forall_mem_append.mpr ⟨hitem.declared, ?_⟩, hitem.parameters⟩
      exact List.forall_mem_singleton.mpr (Operation.lists_read hd (of_optional hop))
  · obtain ⟨parameters, hparameters, hnext⟩ := bind_eq_ok hnext
    cases hnext
    have hlists := forall_mem_listOf (fun d p hd hp => Parameter.lists_read hd hp) hd hparameters
    exact ⟨hitem.declared, hlists⟩

theorem lists_readPaths {d : Draft} (hd : d.Proper) {paths : Entries PathItem}
    (h : readPaths d = .ok paths) : ∀ p ∈ paths, p.2.Lists := by
  obtain ⟨raw, hraw, h⟩ := bind_eq_ok h
  have hproper := forall_mem_tableOf (fun d v hd hv => hd.value _ v hv) hd hraw
  refine forall_mem_of_mapM (Q := fun p => p.2.Proper) ?_
    (fun p hp => hproper p (List.mem_of_mem_filter hp)) h
  rintro ⟨key, v⟩ item hv hitem
  dsimp only at hitem
  split at hitem
  · next hread =>
    cases hitem
    exact PathItem.lists_read (proper_ofJson v hv.exact) hread
  · cases hitem

theorem lists_readComponents {d : Draft} (hd : d.Proper) {schemas : Entries Schema}
    (h : readComponents d = .ok schemas) : ∀ p ∈ schemas, p.2.Lists := by
  refine record_induction (P := fun schemas : Entries Schema => ∀ p ∈ schemas, p.2.Lists) ?_ hd
    (List.forall_mem_nil _) h
  intro schemas name d next hd _ hnext
  exact forall_mem_tableOf (fun d s hd hs => Schema.lists_read hd hs) hd hnext

structure Document.Lists (d : Document) : Prop where
  paths : ∀ p ∈ d.paths, p.2.Lists
  schemas : ∀ p ∈ d.schemas, p.2.Lists

theorem lists_rawDocument {d : Draft} (hd : d.Proper) {raw : RawDocument}
    (h : RawDocument.read d = .ok raw) : (∀ p ∈ raw.paths, p.2.Lists) ∧
      ∀ schemas, raw.components = some schemas → ∀ p ∈ schemas, p.2.Lists := by
  refine record_induction (P := fun raw => (∀ p ∈ raw.paths, p.2.Lists) ∧
      ∀ schemas, raw.components = some schemas → ∀ p ∈ schemas, p.2.Lists) ?_ hd ⟨nofun, nofun⟩ h
  intro raw name d next hd hraw hnext
  split at hnext
  · obtain ⟨_, -, hnext⟩ := bind_eq_ok hnext
    cases hnext
    exact hraw
  · obtain ⟨_, -, hnext⟩ := bind_eq_ok hnext
    cases hnext
    exact hraw
  · obtain ⟨paths, hpaths, hnext⟩ := bind_eq_ok hnext
    cases hnext
    exact ⟨lists_readPaths hd hpaths, hraw.2⟩
  · obtain ⟨schemas, hschemas, hnext⟩ := bind_eq_ok hnext
    cases hnext
    refine ⟨hraw.1, ?_⟩
    exact of_optional_some (P := fun schemas => ∀ p ∈ schemas, p.2.Lists)
      (fun d t hd ht => lists_readComponents hd ht) hd hschemas
  · cases hnext

theorem Document.lists_of_parse {text : String} {d : Document} (h : Document.parse text = .ok d) :
    d.Lists := by
  obtain ⟨root, raw, hroot, hraw, hpaths, hschemas⟩ := exists_raw_of_parse h
  obtain ⟨hlisted, hcomponents⟩ := lists_rawDocument hroot hraw
  refine ⟨hpaths ▸ hlisted, ?_⟩
  rw [hschemas]
  cases hnone : raw.components with
  | none => exact List.forall_mem_nil _
  | some schemas => exact hcomponents schemas hnone

/-! The schemas that stand somewhere in a document. -/

namespace Client.Endpoint

variable {e : Endpoint} (hitem : e.item.Lists) (hoperation : e.operation.Lists)

include hitem hoperation in
theorem lists_parameters : ∀ p ∈ e.parameters, p.Lists := by
  intro p hp
  rcases List.mem_append.mp hp with hp | hp
  · exact hitem.parameters p (List.mem_of_mem_filter hp)
  · exact hoperation.parameters p hp

include hoperation

theorem lists_requestSchema {s : Schema} (h : e.requestSchema = some s) : s.Lists := by
  obtain ⟨body, hbody, h⟩ := Option.bind_eq_some_iff.mp h
  exact (hoperation.requestBody body hbody).schema h

theorem lists_responseSchema {s : Schema} (h : e.responseSchema = some s) : s.Lists := by
  obtain ⟨⟨status, response⟩, hselect, h⟩ := Option.bind_eq_some_iff.mp h
  refine (hoperation.responses (status, response) ?_).schema h
  unfold selectResponse at hselect
  split at hselect
  · next hplain =>
    cases hselect
    exact Entries.mem_of_get? hplain
  · exact List.mem_of_find?_eq_some hselect

end Client.Endpoint

namespace Document

variable {d : Document} (h : d.Lists)

include h

theorem Lists.endpoint {e : Client.Endpoint} (he : e ∈ d.endpoints) :
    e.item.Lists ∧ e.operation.Lists := by
  obtain ⟨p, hp, he⟩ := mem_endpoints.mp he
  obtain ⟨⟨verb, op⟩, hop, rfl⟩ := List.mem_map.mp he
  obtain ⟨_, -, hmap⟩ := List.mem_filterMap.mp hop
  obtain ⟨_, hlookup, heq⟩ := Option.map_eq_some_iff.mp hmap
  cases heq
  have hitem := h.paths p hp
  refine ⟨hitem, hitem.declared (verb, op) ?_⟩
  obtain ⟨before, after, hdeclared, -⟩ := List.lookup_eq_some_iff.mp hlookup
  rw [hdeclared]
  exact List.mem_append_right _ List.mem_cons_self

/-- The schemas that stand in a document list proper values if the schemas of its paths and its
shared ones do. -/
theorem Lists.stands {key : String} {s : Schema} (hs : d.Stands key s) : s.Lists := by
  induction hs with
  | component hmem => exact h.schemas _ hmem
  | parameter he hp _ hs =>
    obtain ⟨hitem, hoperation⟩ := h.endpoint he
    exact Client.Endpoint.lists_parameters hitem hoperation _ hp _ hs
  | request he hs => exact Client.Endpoint.lists_requestSchema (h.endpoint he).2 hs
  | response he hs => exact Client.Endpoint.lists_responseSchema (h.endpoint he).2 hs
  | property _ ht ih =>
    obtain ⟨_, hproperties, _, _⟩ := ih
    exact hproperties _ ht
  | items _ ih =>
    obtain ⟨_, _, hitems, _⟩ := ih
    exact hitems _ rfl
  | alternative _ hv ht ih =>
    obtain ⟨_, _, _, honeOf⟩ := ih
    obtain ⟨_, hproperties, _, _⟩ := honeOf _ rfl _ hv
    exact hproperties _ ht

end Document

end ApiForge
