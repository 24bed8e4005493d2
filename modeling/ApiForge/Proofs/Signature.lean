import ApiForge.Client.Generation
import ApiForge.Proofs.Steady

/-!
The types that a method has in its signature. Every argument and the payload is written as the type
that a schema of the operation resolves to, these types are those of the method, and what their
resolution finds is among the work that the method asks for. Main statement: `signature_planMethod`.
-/

namespace ApiForge

structure Discovered.Within (d e : Discovered) : Prop where
  pending : d.pending ⊆ e.pending
  unions : d.unions ⊆ e.unions

namespace Discovered

theorem within_refl (d : Discovered) : d.Within d := ⟨fun _ h => h, fun _ h => h⟩

theorem Within.trans {d e f : Discovered} (h : d.Within e) (h' : e.Within f) : d.Within f :=
  ⟨fun _ hp => h'.pending (h.pending hp), fun _ hu => h'.unions (h.unions hu)⟩

theorem within_append_left (d e : Discovered) : d.Within (d ++ e) :=
  ⟨List.subset_append_left d.pending e.pending, List.subset_append_left d.unions e.unions⟩

theorem within_append_right (d e : Discovered) : e.Within (d ++ e) :=
  ⟨List.subset_append_right d.pending e.pending, List.subset_append_right d.unions e.unions⟩

end Discovered

/-- The names of types that stand in the expression of a type. -/
def ModelType.writtenNames : ModelType → List String
  | array item => item.writtenNames
  | reference name => [name]
  | t => t.name?.toList

namespace Resolving

/-- A resolution comes to a type on its own, and the work that it adds is in other work. -/
def ResolvesTo (m : Resolving ModelType) (t : ModelType) (found : Discovered) : Prop :=
  ∃ d, m.outcome = .ok (t, d) ∧ d.Within found

theorem ResolvesTo.mono {m : Resolving ModelType} {t : ModelType} {found more : Discovered}
    (h : ResolvesTo m t found) (hmore : found.Within more) : ResolvesTo m t more := by
  obtain ⟨d, hd, hwithin⟩ := h
  exact ⟨d, hd, hwithin.trans hmore⟩

/-- A type names in its expression what it points at. -/
def NamesWritten (t : ModelType) : Prop := t.writtenNames = t.referencedNames

theorem TypeOf.namesWritten {key : String} {s : Schema} {t : ModelType} {d : Discovered}
    (h : TypeOf key s t d) : NamesWritten t := by
  induction h with
  | listOf _ _ ih => exact ih
  | _ => rfl

/-- The type of a property is the one that its schema resolves to, and names what it points at. -/
theorem gives_type (key : String) (s : Schema) :
    Gives (property key s) fun t d => ResolvesTo (property key s) t d ∧ NamesWritten t :=
  (gives_outcome_property key s).mono fun _ d h =>
    ⟨⟨d, h, d.within_refl⟩, ((gives_typeOf key s).of_outcome h).namesWritten⟩

end Resolving

namespace Client

open Resolving

/-- The stem of the names that the method of an operation and its schemas get. -/
def Endpoint.stem (e : Endpoint) : String :=
  e.verb.word ++ Name.titleCase (Name.methodStem e.path)

def Endpoint.requestSchema (e : Endpoint) : Option Schema :=
  e.operation.requestBody.bind fun body => Content.schema body.content

/-- The schema of the answer that the method of an operation is about. -/
def Endpoint.responseSchema (e : Endpoint) : Option Schema :=
  (selectResponse e.operation.responses).bind fun (_, response) => Content.schema response.content

/-- An argument stands for a parameter or the body of an operation, and has its type. -/
inductive ArgumentOf (e : Endpoint) (a : Argument) (t : ModelType) (found : Discovered) : Prop
  | parameter {p : Parameter} (mem : p ∈ e.parameters) (role : roleOf p = .argument a.place)
      (wire : a.wire = p.name) (type : ResolvesTo (parameterType p) t found)
  | body {schema : Schema} (request : e.requestSchema = some schema) (place : a.place = .body)
      (type : ResolvesTo (property (e.stem ++ "Request") schema) t found)

/-- What the method of an operation gives back is the type of its answer. -/
inductive PayloadOf (e : Endpoint) (payload : Payload) (types : List ModelType)
    (found : Discovered) : Prop
  | empty (response : e.responseSchema = none) (payload_eq : payload = .empty)
  | value {schema : Schema} {t : ModelType} (response : e.responseSchema = some schema)
      (mem : t ∈ types) (payload_eq : payload = .json t.expression ∨
        payload = .optionalJson t.expression)
      (type : ResolvesTo (property (e.stem ++ "Response") schema) t found)

/-- The types in the signature of a method are its types, and come from the operation. -/
structure Signature (e : Endpoint) (m : Method) (found : Discovered) : Prop where
  endpoint : m.endpoint = e
  argument : ∀ a ∈ m.arguments, ∃ t ∈ m.types, a.type = t.expression ∧ ArgumentOf e a t found
  body : e.requestSchema ≠ none → ∃ a ∈ m.arguments, a.place = .body
  payload : PayloadOf e m.payload m.types found
  written : ∀ t ∈ m.types, NamesWritten t

theorem ArgumentOf.mono {e : Endpoint} {a : Argument} {t : ModelType} {found more : Discovered}
    (h : ArgumentOf e a t found) (hmore : found.Within more) : ArgumentOf e a t more := by
  cases h with
  | parameter mem role wire type => exact .parameter mem role wire (type.mono hmore)
  | body request place type => exact .body request place (type.mono hmore)

theorem roleOf_ne_body (p : Parameter) : roleOf p ≠ .argument .body := by
  unfold roleOf
  split
  · nofun
  · nofun
  · split <;> nofun
  · nofun

/-- The argument of the body has the type of the schema of the body. -/
theorem ArgumentOf.of_body {e : Endpoint} {a : Argument} {t : ModelType} {found : Discovered}
    {schema : Schema} (h : ArgumentOf e a t found) (hplace : a.place = .body)
    (hrequest : e.requestSchema = some schema) :
    ResolvesTo (property (e.stem ++ "Request") schema) t found := by
  cases h with
  | parameter mem role wire type =>
    rw [hplace] at role
    exact absurd role (roleOf_ne_body _)
  | body request place type =>
    rw [hrequest] at request
    cases request
    exact type

theorem PayloadOf.mono {e : Endpoint} {payload : Payload} {types : List ModelType}
    {found more : Discovered} (h : PayloadOf e payload types found) (hmore : found.Within more) :
    PayloadOf e payload types more := by
  cases h with
  | empty response payload_eq => exact .empty response payload_eq
  | value response mem payload_eq type => exact .value response mem payload_eq (type.mono hmore)

theorem Signature.mono {e : Endpoint} {m : Method} {found more : Discovered}
    (h : Signature e m found) (hmore : found.Within more) : Signature e m more where
  endpoint := h.endpoint
  argument a ha := by
    obtain ⟨t, ht, htype, hargument⟩ := h.argument a ha
    exact ⟨t, ht, htype, hargument.mono hmore⟩
  body := h.body
  payload := h.payload.mono hmore
  written := h.written

theorem gives_parameterType (p : Parameter) :
    Gives (parameterType p) fun t d => ResolvesTo (parameterType p) t d ∧ NamesWritten t := by
  cases h : p.schema with
  | none =>
    have hp : parameterType p = pure (.primitive .string) := by rw [parameterType, h]
    rw [hp]
    exact .pure ⟨⟨{}, rfl, Discovered.within_refl _⟩, rfl⟩
  | some schema =>
    have hp : parameterType p = property p.name schema := by rw [parameterType, h]
    rw [hp]
    exact gives_type p.name schema

/-- The arguments of parameters, each with its type. -/
theorem gives_parameterArguments (used : List String) (ps : List Parameter) :
    Gives (parameterArguments used ps) fun given d => ∀ x ∈ given,
      x.1.type = x.2.expression ∧ NamesWritten x.2 ∧
        ∃ p ∈ ps, roleOf p = .argument x.1.place ∧ x.1.wire = p.name ∧
          ResolvesTo (parameterType p) x.2 d := by
  induction ps generalizing used with
  | nil => exact .pure fun x hx => by cases hx
  | cons p rest ih =>
    rw [parameterArguments]
    split
    · next place hrole =>
      refine (gives_parameterType p).bind fun t => (ih _).bind fun more => .pure ?_
      rintro e hmore d ⟨htype, hwritten⟩ x hx
      rcases List.mem_cons.mp hx with rfl | hx
      · refine ⟨rfl, hwritten, p, List.mem_cons_self, hrole, rfl, htype.mono ?_⟩
        exact Discovered.within_append_left d _
      · obtain ⟨hexpression, hwritten', q, hq, hqrole, hwire, hqtype⟩ := hmore x hx
        refine ⟨hexpression, hwritten', q, List.mem_cons_of_mem p hq, hqrole, hwire,
          hqtype.mono ?_⟩
        exact (Discovered.within_append_left e _).trans (Discovered.within_append_right d _)
    · refine (ih used).mono ?_
      rintro given d h x hx
      obtain ⟨hexpression, hwritten, q, hq, hrest⟩ := h x hx
      exact ⟨hexpression, hwritten, q, List.mem_cons_of_mem p hq, hrest⟩

theorem gives_bodyArgument (used : List String) (key : String) (body : RequestBody) :
    Gives (bodyArgument used key body) fun given d =>
      (given = [] → Content.schema body.content = none) ∧
      ∀ x ∈ given, x.1.type = x.2.expression ∧ NamesWritten x.2 ∧ x.1.place = .body ∧
        ∃ schema, Content.schema body.content = some schema ∧
          ResolvesTo (property key schema) x.2 d := by
  cases h : Content.schema body.content with
  | none =>
    rw [bodyArgument, h]
    exact .pure ⟨fun _ => rfl, fun x hx => by cases hx⟩
  | some schema =>
    rw [bodyArgument, h]
    refine (gives_type key schema).bind fun t => .pure ?_
    rintro d ⟨htype, hwritten⟩
    refine ⟨fun hnil => absurd hnil (List.cons_ne_nil _ _), ?_⟩
    intro x hx
    rw [List.mem_singleton.mp hx]
    exact ⟨rfl, hwritten, rfl, schema, rfl, htype.mono (Discovered.within_append_left d _)⟩

theorem gives_typed_payload {e : Endpoint} {status : String} {response : Response}
    (hselect : selectResponse e.operation.responses = some (status, response)) :
    Gives (responsePayload (e.stem ++ "Response") status response) fun r d =>
      (∀ t ∈ r.2, NamesWritten t) ∧ PayloadOf e r.1 r.2 d := by
  have hanswer : e.responseSchema = Content.schema response.content := by
    rw [Endpoint.responseSchema, hselect]
    rfl
  cases h : Content.schema response.content with
  | none =>
    rw [responsePayload, h]
    refine .pure ⟨fun t ht => ?_, .empty (hanswer.trans h) rfl⟩
    cases ht
  | some schema =>
    rw [responsePayload, h]
    refine (gives_type _ schema).bind fun t => .pure ?_
    rintro d ⟨htype, hwritten⟩
    refine ⟨fun u hu => ?_, .value (hanswer.trans h) (List.mem_singleton_self t) ?_ (htype.mono ?_)⟩
    · rwa [List.mem_singleton.mp hu]
    · dsimp only
      split
      · exact .inr rfl
      · exact .inl rfl
    · exact Discovered.within_append_left d _

theorem mem_requiredFirst {a : Argument} {arguments : List Argument} :
    a ∈ requiredFirst arguments ↔ a ∈ arguments := by
  rw [requiredFirst, List.mem_append, List.mem_filter, List.mem_filter]
  cases a.required <;> simp

/-- An argument with the type that it is written as. -/
def Typed (e : Endpoint) (found : Discovered) (x : Argument × ModelType) : Prop :=
  x.1.type = x.2.expression ∧ NamesWritten x.2 ∧ ArgumentOf e x.1 x.2 found

theorem Typed.mono {e : Endpoint} {found more : Discovered} {x : Argument × ModelType}
    (h : Typed e found x) (hmore : found.Within more) : Typed e more x :=
  ⟨h.1, h.2.1, h.2.2.mono hmore⟩

theorem gives_typed_parameters (e : Endpoint) :
    Gives (parameterArguments [] e.parameters) fun given d => ∀ x ∈ given, Typed e d x := by
  refine (gives_parameterArguments [] e.parameters).mono ?_
  intro given d h x hx
  obtain ⟨hexpression, hwritten, p, hp, hrole, hwire, htype⟩ := h x hx
  exact ⟨hexpression, hwritten, .parameter hp hrole hwire htype⟩

/-- The argument of the body with its type; there is one if the body has a schema. -/
def TypedBody (e : Endpoint) (found : Discovered) (body : List (Argument × ModelType)) : Prop :=
  (∀ x ∈ body, Typed e found x) ∧ (e.requestSchema ≠ none → ∃ x ∈ body, x.1.place = .body)

theorem TypedBody.mono {e : Endpoint} {found more : Discovered} {body : List (Argument × ModelType)}
    (h : TypedBody e found body) (hmore : found.Within more) : TypedBody e more body :=
  ⟨fun x hx => (h.1 x hx).mono hmore, h.2⟩

theorem gives_typed_body {e : Endpoint} {body : RequestBody}
    (hbody : e.operation.requestBody = some body) (used : List String) :
    Gives (bodyArgument used (e.stem ++ "Request") body) fun given d => TypedBody e d given := by
  have hrequest : e.requestSchema = Content.schema body.content := by
    rw [Endpoint.requestSchema, hbody]
    rfl
  refine (gives_bodyArgument used _ body).mono ?_
  rintro given d ⟨hnil, h⟩
  refine ⟨?_, ?_⟩
  · intro x hx
    obtain ⟨hexpression, hwritten, hplace, schema, hschema, htype⟩ := h x hx
    exact ⟨hexpression, hwritten, .body (hrequest.trans hschema) hplace htype⟩
  · intro hsome
    have hne : given ≠ [] := fun heq => hsome (hrequest.trans (hnil heq))
    obtain ⟨x, hx⟩ := List.exists_mem_of_ne_nil given hne
    exact ⟨x, hx, (h x hx).2.2.1⟩

theorem gives_no_body {e : Endpoint} (hbody : e.operation.requestBody = none) :
    Gives (pure []) fun given d => TypedBody e d given := by
  refine .pure ⟨?_, ?_⟩
  · intro x hx
    cases hx
  · intro hsome
    exact absurd (by rw [Endpoint.requestSchema, hbody]; rfl) hsome

theorem signature_of_typed {e : Endpoint} {m : Method} {found : Discovered}
    {given body : List (Argument × ModelType)} {responseTypes : List ModelType}
    (hendpoint : m.endpoint = e)
    (harguments : m.arguments = requiredFirst ((given ++ body).map (·.1)))
    (htypes : m.types = (given ++ body).map (·.2) ++ responseTypes)
    (hgiven : ∀ x ∈ given, Typed e found x) (hbody : TypedBody e found body)
    (hresponse : ∀ t ∈ responseTypes, NamesWritten t)
    (hpayload : PayloadOf e m.payload responseTypes found) : Signature e m found := by
  have hall : ∀ x ∈ given ++ body, Typed e found x := by
    intro x hx
    exact (List.mem_append.mp hx).elim (hgiven x) (hbody.1 x)
  constructor
  case endpoint => exact hendpoint
  case argument =>
    intro a ha
    rw [harguments, mem_requiredFirst] at ha
    obtain ⟨x, hx, rfl⟩ := List.mem_map.mp ha
    obtain ⟨hexpression, _, hargument⟩ := hall x hx
    refine ⟨x.2, ?_, hexpression, hargument⟩
    rw [htypes]
    exact List.mem_append_left _ (List.mem_map_of_mem hx)
  case body =>
    intro hsome
    obtain ⟨x, hx, hplace⟩ := hbody.2 hsome
    refine ⟨x.1, ?_, hplace⟩
    rw [harguments, mem_requiredFirst]
    exact List.mem_map_of_mem (List.mem_append_right given hx)
  case payload =>
    cases hpayload with
    | empty response payload_eq => exact .empty response payload_eq
    | value response mem payload_eq type =>
      refine .value response ?_ payload_eq type
      rw [htypes]
      exact List.mem_append_right _ mem
  case written =>
    intro t ht
    rw [htypes, List.mem_append, List.mem_map] at ht
    rcases ht with ⟨x, hx, rfl⟩ | ht
    · exact (hall x hx).2.1
    · exact hresponse t ht

theorem gives_planMethod (info : Info) (e : Endpoint) :
    Gives (planMethod info e) fun r d => ∀ m, r = some m → Signature e m d := by
  unfold planMethod
  split
  · refine .pure fun m hm => ?_
    cases hm
  · next status response hselect =>
    refine (gives_typed_parameters e).bind fun given => ?_
    dsimp only
    rw [← Endpoint.stem]
    split
    all_goals
      refine Gives.bind (P := fun body d => TypedBody e d body) ?_ fun body => ?_
    · next body hbody => exact gives_typed_body hbody _
    rotate_left
    · next hbody => exact gives_no_body hbody
    all_goals
      rcases urlTemplate e.path _ with ⟨template, pathArguments⟩
      refine (gives_typed_payload hselect).bind fun r => .pure ?_
      rintro b ⟨hresponse, hpayload⟩ c hbody d hgiven m hm
      rw [← Option.some.inj hm]
      have hc : c.Within (d ++ (c ++ (b ++ {}))) :=
        (c.within_append_left _).trans (d.within_append_right _)
      have hb : b.Within (d ++ (c ++ (b ++ {}))) :=
        ((b.within_append_left {}).trans (c.within_append_right _)).trans (d.within_append_right _)
      exact signature_of_typed rfl rfl rfl (fun x hx => (hgiven x hx).mono (d.within_append_left _))
        (hbody.mono hc) hresponse (hpayload.mono hb)

theorem signature_planMethod {info : Info} {e : Endpoint} {m : Method} {found : Discovered}
    (h : (planMethod info e).outcome = .ok (some m, found)) : Signature e m found :=
  (gives_planMethod info e).of_outcome h m rfl

end Client

end ApiForge
