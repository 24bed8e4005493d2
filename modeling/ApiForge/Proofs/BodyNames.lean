import ApiForge.Proofs.ClientAccount
import ApiForge.Proofs.GivenOut
import ApiForge.Proofs.Parameters

/-!
The names that the body of a method refers to besides the arguments. An argument that wants one of
them is given another, unless it wants the name of the function that writes parameters, which is
held back from none. Main statement: this one apart, no argument has a name that the body needs,
and none has this one exactly when no parameter and no body of the operation asks for it
(`bodyNames_free_iff`).
-/

namespace ApiForge

namespace Name

theorem escapeKeyword_ne_self (s : String) : escapeKeyword s ≠ "self" := by
  have hpath : ∀ k ∈ pathKeywords, k ++ "_" ≠ "self" := by decide
  have hraw : ∀ k ∈ rawableKeywords, rawMark ++ k ≠ "self" := by decide
  rw [escapeKeyword]
  split
  · next h => exact hpath s (List.contains_iff_mem.mp h)
  · next h =>
    split
    · next hrawable => exact hraw s (List.contains_iff_mem.mp hrawable)
    · rintro rfl
      exact h (by decide)

theorem snakeIdent_ne_self (name : String) : snakeIdent name ≠ "self" := by
  rw [snakeIdent_eq]
  split
  · decide
  · exact escapeKeyword_ne_self _

end Name

namespace Client

open Resolving

/-- The names that the statements of a method refer to besides its arguments: the client, what they
bind on the way, and the function that writes parameters. -/
def bodyNames : List String :=
  ["self", "url", "request", "response", "bytes", "value", "values", "param_value"]

/-- The name that the body of an operation asks for: that of its type if the document names it. -/
def bodyStem (schema : Schema) : String :=
  match schema.referenceTarget with
  | some target => Name.snakeIdent (Name.className target)
  | none => "body"

def Endpoint.askedNames (e : Endpoint) : List String :=
  (e.parameters.filter IsGiven).map (fun p => Name.snakeIdent p.name)
    ++ e.requestSchema.toList.map bodyStem

/-! What is wanted for a name that is asked for. -/

theorem endsInDigit_of_mem_bodyNames {name : String} (h : name ∈ bodyNames) :
    Name.endsInDigit name = false := by
  have hall : ∀ n ∈ bodyNames, Name.endsInDigit n = false := by decide
  exact hall name h

theorem wantedIdent_cases (name : String) :
    wantedIdent name ∉ bodyNames ∨ wantedIdent name = name ∧ name ∉ reservedIdents := by
  have hreserved : ∀ n ∈ reservedIdents, n ++ "_param" ∉ bodyNames := by decide
  rw [wantedIdent]
  split
  · next h => exact .inl (hreserved name (List.contains_iff_mem.mp h))
  · next h => exact .inr ⟨rfl, fun hmem => h (List.contains_iff_mem.mpr hmem)⟩

/-- Of the names of the body, only that of the function that writes parameters is ever wanted. -/
theorem eq_paramValue_of_wantedIdent {name : String} (hname : name ≠ "self")
    (h : wantedIdent name ∈ bodyNames) : name = "param_value" := by
  obtain ⟨hsame, hfree⟩ := (wantedIdent_cases name).resolve_left (not_not_intro h)
  have hall : ∀ n ∈ bodyNames, n ∉ reservedIdents → n = "self" ∨ n = "param_value" := by decide
  rw [hsame] at h
  exact (hall name h hfree).resolve_left hname

theorem bodyStem_ne_self (schema : Schema) : bodyStem schema ≠ "self" := by
  rw [bodyStem]
  split
  · exact Name.snakeIdent_ne_self _
  · decide

theorem ne_self_of_mem_askedNames {e : Endpoint} {name : String} (h : name ∈ e.askedNames) :
    name ≠ "self" := by
  rcases List.mem_append.mp h with h | h
  · obtain ⟨p, -, rfl⟩ := List.mem_map.mp h
    exact Name.snakeIdent_ne_self _
  · obtain ⟨schema, -, rfl⟩ := List.mem_map.mp h
    exact bodyStem_ne_self schema

/-! The identifiers of the arguments. -/

theorem ArgumentsOf.map_ident {used : List String} {ps : List Parameter}
    {given : List (Argument × ModelType)} (h : ArgumentsOf used ps given) :
    given.map (·.1.ident) =
      Name.freshAll used
        ((ps.filter IsGiven).map fun p => wantedIdent (Name.snakeIdent p.name)) := by
  induction h with
  | nil => rfl
  | argument role _ ih =>
    rw [List.filter_cons, if_pos (decide_eq_true (isGiven_of_roleOf role).1), List.map_cons, ih]
    rfl
  | skip role _ ih =>
    rw [List.filter_cons, if_neg (by simpa using not_isGiven_of_roleOf role)]
    exact ih

/-- The identifier of a body that the document names comes from its type. -/
def BodyNamed (used : List String) (schema : Schema) (body : Argument) : Prop :=
  body.place = .body ∧ body.ident = Name.fresh used (wantedIdent
    (if schema.referenceTarget.isSome then Name.snakeIdent body.type else "body"))

theorem returns_reference {key target : String} {schema : Schema}
    (h : schema.referenceTarget = some target) :
    Returns (property key schema) fun t => ∃ name, t = .reference name := by
  obtain ⟨notes, shape⟩ := schema
  rw [property]
  cases shape with
  | reference other => exact Returns.bind fun name => .pure ⟨name, rfl⟩
  | _ => cases h

theorem returns_bodyNamed {e : Endpoint} {request : RequestBody}
    (hrequest : e.operation.requestBody = some request) (used : List String) (key : String) :
    Returns (bodyArgument used key request) fun body =>
      List.Forall₂ (BodyNamed used) e.requestSchema.toList (body.map (·.1)) := by
  have hschema : e.requestSchema = Content.schema request.content := by
    rw [Endpoint.requestSchema, hrequest]
    rfl
  rw [bodyArgument, hschema]
  cases Content.schema request.content with
  | none => exact .pure .nil
  | some schema =>
    suffices hstem : Returns (property key schema) fun t => bodyIdent schema t =
        if schema.referenceTarget.isSome then Name.snakeIdent t.expression else "body" by
      refine hstem.andThen fun t ht => .pure (.cons ⟨rfl, ?_⟩ .nil)
      exact congrArg (fun stem => Name.fresh used (wantedIdent stem)) ht
    cases htarget : schema.referenceTarget with
    | none => exact fun _ t _ => by cases t <;> simp [bodyIdent, htarget]
    | some target =>
      refine (returns_reference htarget).mono ?_
      rintro _ ⟨name, rfl⟩
      simp [bodyIdent, htarget, ModelType.expression]

/-- A body that the document names has the type of its name. -/
theorem ArgumentOf.type_of_body {e : Endpoint} {a : Argument} {t : ModelType} {found : Discovered}
    {schema : Schema} {target : String} (h : ArgumentOf e a t found) (hplace : a.place = .body)
    (hrequest : e.requestSchema = some schema) (htarget : schema.referenceTarget = some target) :
    t = .reference (Name.className target) := by
  obtain ⟨d, hd, -⟩ := h.of_body hplace hrequest
  have htype : TypeOf (e.stem ++ "Request") schema t d := (gives_typeOf _ schema).of_outcome hd
  cases htype with
  | pointer =>
    obtain rfl := Option.some.inj htarget
    rfl
  | _ => cases htarget

theorem map_ident_of_bodyNamed {e : Endpoint} {m : Method} {found : Discovered}
    (hsignature : Signature e m found) {used : List String} {body : List Argument}
    (hbody : List.Forall₂ (BodyNamed used) e.requestSchema.toList body)
    (hmem : ∀ a ∈ body, a ∈ m.arguments) :
    body.map (·.ident) =
      Name.freshAll used (e.requestSchema.toList.map fun s => wantedIdent (bodyStem s)) := by
  cases hrequest : e.requestSchema with
  | none =>
    rw [hrequest] at hbody
    cases hbody
    rfl
  | some schema =>
    rw [hrequest] at hbody
    obtain ⟨a, rest, ⟨hplace, hident⟩, hrest, rfl⟩ := List.forall₂_cons_left_iff.mp hbody
    obtain rfl := List.forall₂_nil_left_iff.mp hrest
    rw [List.map_singleton, hident]
    suffices hstem : (if schema.referenceTarget.isSome then Name.snakeIdent a.type else "body") =
        bodyStem schema by
      rw [hstem, Option.toList_some, List.map_singleton, Name.freshAll, Name.freshAll]
    cases htarget : schema.referenceTarget with
    | none => rw [bodyStem, htarget]; rfl
    | some target =>
      obtain ⟨t, -, htype, hargument⟩ := hsignature.argument a (hmem a List.mem_cons_self)
      rw [hargument.type_of_body hplace hrequest htarget] at htype
      simp only [bodyStem, htarget, htype, Option.isSome_some, if_true, ModelType.expression]

/-- The arguments of a method in the order in which they are declared: the names they have are given
out one after the other for those that are asked for. -/
theorem exists_declared {info : Info} {e : Endpoint} {m : Method} {found : Discovered}
    (h : (planMethod info e).outcome = .ok (some m, found)) :
    ∃ declared, m.arguments = requiredFirst declared ∧
      declared.map (·.ident) = Name.freshAll [] (e.askedNames.map wantedIdent) := by
  obtain ⟨given, body, hgiven, hbody, -, harguments, -⟩ :=
    (returns_planned (returns_parameterArguments [] e.parameters)
      (Q := fun given body => List.Forall₂ (BodyNamed (given.map (·.1.ident)))
        e.requestSchema.toList (body.map (·.1)))
      (fun given key request _ hrequest => returns_bodyNamed hrequest _ key)
      (fun given _ hrequest => by
        rw [Endpoint.requestSchema, hrequest]
        exact .nil)).of_outcome h m rfl
  have hbodyIdents : (body.map (·.1)).map (·.ident) = Name.freshAll (given.map (·.1.ident))
      (e.requestSchema.toList.map fun s => wantedIdent (bodyStem s)) := by
    refine map_ident_of_bodyNamed (signature_planMethod h) hbody fun a ha => ?_
    rw [harguments, mem_requiredFirst, List.map_append]
    exact List.mem_append_right _ ha
  have hasked : e.askedNames.map wantedIdent =
      ((e.parameters.filter IsGiven).map fun p => wantedIdent (Name.snakeIdent p.name)) ++
        e.requestSchema.toList.map fun s => wantedIdent (bodyStem s) := by
    simp only [Endpoint.askedNames, List.map_append, List.map_map, Function.comp_def]
  refine ⟨(given ++ body).map (·.1), harguments, ?_⟩
  rw [hasked, Name.freshAll_append, ← hgiven.map_ident, List.nil_append, ← hbodyIdents,
    List.map_append, List.map_append, List.map_map]
  rfl

/-- A name without a number behind it is that of an argument exactly when one wants it. -/
theorem mem_idents_iff {info : Info} {e : Endpoint} {m : Method} {found : Discovered}
    (h : (planMethod info e).outcome = .ok (some m, found)) {name : String}
    (hname : Name.endsInDigit name = false) :
    name ∈ m.arguments.map (·.ident) ↔ name ∈ e.askedNames.map wantedIdent := by
  obtain ⟨declared, harguments, hidents⟩ := exists_declared h
  have hmem : name ∈ m.arguments.map (·.ident) ↔ name ∈ declared.map (·.ident) := by
    simp only [harguments, List.mem_map, mem_requiredFirst]
  rw [hmem, hidents, Name.mem_freshAll_iff hname List.not_mem_nil]

theorem free_of_planMethod {info : Info} {e : Endpoint} {m : Method} {found : Discovered}
    (h : (planMethod info e).outcome = .ok (some m, found)) :
    (∀ a ∈ m.arguments, a.ident ∈ bodyNames → a.ident = "param_value") ∧
      ((∀ a ∈ m.arguments, a.ident ∉ bodyNames) ↔ "param_value" ∉ e.askedNames) := by
  have honly : ∀ a ∈ m.arguments, a.ident ∈ bodyNames → "param_value" ∈ e.askedNames ∧
      a.ident = "param_value" := by
    intro a ha hbody
    have hwanted := (mem_idents_iff h (endsInDigit_of_mem_bodyNames hbody)).mp
      (List.mem_map_of_mem ha)
    obtain ⟨name, hasked, hname⟩ := List.mem_map.mp hwanted
    rw [← hname] at hbody
    obtain rfl := eq_paramValue_of_wantedIdent (ne_self_of_mem_askedNames hasked) hbody
    exact ⟨hasked, hname.symm⟩
  refine ⟨fun a ha hbody => (honly a ha hbody).2, fun hfree hasked => ?_, fun hasked a ha hbody =>
    hasked (honly a ha hbody).1⟩
  have hident : "param_value" ∈ m.arguments.map (·.ident) := by
    rw [mem_idents_iff h (by decide)]
    exact List.mem_map_of_mem hasked
  obtain ⟨a, ha, hname⟩ := List.mem_map.mp hident
  exact hfree a ha (hname ▸ by decide)

/-- A method of a workshop is a planned one, up to its name. -/
theorem Workshop.exists_planned_of_mem (info : Info) (endpoints : List Endpoint) {w : Workshop}
    {m : Method} (hm : m ∈ (endpoints.foldl (addEndpoint info) w).methods) :
    m ∈ w.methods ∨ ∃ e planned found name,
      (planMethod info e).outcome = .ok (some planned, found) ∧ m = { planned with name } := by
  induction endpoints generalizing w with
  | nil => exact .inl hm
  | cons e rest ih =>
    refine (ih hm).elim (fun hstep => ?_) .inr
    rcases ho : (planMethod info e).outcome with p | ⟨_ | planned, found⟩
    · exact .inl (by simpa [addEndpoint, ho] using hstep)
    · exact .inl (by simpa [addEndpoint, ho] using hstep)
    · have hadded : (w.addEndpoint info e).methods = (w.addMethod planned).methods := by
        simp [addEndpoint, ho]
      rw [hadded] at hstep
      refine (List.mem_append.mp hstep).imp_right fun hlast => ?_
      exact ⟨e, planned, found, _, ho, List.mem_singleton.mp hlast⟩

end Client

namespace Document

open Client

theorem bodyNames_free_iff (d : Document) (segment : String) {m : Method}
    (hm : m ∈ (d.plannedClient segment).methods) :
    (∀ a ∈ m.arguments, a.ident ∈ bodyNames → a.ident = "param_value") ∧
      ((∀ a ∈ m.arguments, a.ident ∉ bodyNames) ↔ "param_value" ∉ m.endpoint.askedNames) := by
  obtain ⟨e, planned, found, name, hplan, rfl⟩ :=
    (Workshop.exists_planned_of_mem d.info (d.endpointsUnder segment) hm).resolve_left
      List.not_mem_nil
  have hfree := free_of_planMethod hplan
  rwa [← endpoint_of_planMethod hplan] at hfree

def reading (path : String) (parameters : List Parameter) : Document where
  openapi := "3.0.0"
  info := { title := "Test", version := "1.0" }
  paths := [(path, { declared := [(.get, { parameters, responses := [("200", {})] })] })]

/-- Items by the names that the body of a method refers to, all but one. -/
def itemsBySelf : Document :=
  reading "/items/\x7burl\x7d"
    ({ name := "url", location := "path" } ::
      ["self", "request", "response", "bytes", "value", "values"].map fun name =>
        { name, location := "query" })

theorem itemsBySelf_free : ∃ m ∈ (itemsBySelf.plannedClient "items").methods,
    m.arguments.map (·.ident) = ["url_param", "self_", "request_param", "response_param",
      "bytes_param", "value_param", "values_param"] ∧
      ∀ a ∈ m.arguments, a.ident ∉ bodyNames := by
  have hmethods : (itemsBySelf.plannedClient "items").methods.map
      (fun m => (m.arguments.map (·.ident), m.endpoint.askedNames.contains "param_value")) =
        [(["url_param", "self_", "request_param", "response_param", "bytes_param",
          "value_param", "values_param"], false)] := by
    decide
  obtain ⟨m, hm, hfacts⟩ := List.map_eq_singleton_iff.mp hmethods
  obtain ⟨hidents, hasked⟩ := Prod.mk.inj hfacts
  have hmem : m ∈ (itemsBySelf.plannedClient "items").methods := hm ▸ List.mem_singleton_self m
  refine ⟨m, hmem, hidents, (bodyNames_free_iff itemsBySelf "items" hmem).2.mpr ?_⟩
  rw [← List.contains_iff_mem, hasked]
  nofun

def itemsByParamValue : Document :=
  reading "/items/\x7bparam_value\x7d" [{ name := "param_value", location := "path" }]

theorem itemsByParamValue_captured : ∃ c ∈ itemsByParamValue.acceptedClients .unchecked,
    ∃ m ∈ c.methods, (∃ a ∈ m.arguments, a.ident ∈ bodyNames) ∧
      urlStatement m.urlTemplate m.pathArguments =
        bodyLine ("let url = format!(\"\x7b\x7d/items/\x7b\x7d\", self.base_url, " ++
          "param_value(&param_value));") := by
  have hmethods : ((itemsByParamValue.acceptedClients .unchecked).flatMap (·.methods)).map
      (fun m => (m.arguments.map (·.ident), urlStatement m.urlTemplate m.pathArguments)) =
        [(["param_value"], bodyLine ("let url = format!(\"\x7b\x7d/items/\x7b\x7d\", " ++
          "self.base_url, param_value(&param_value));"))] := by
    decide +kernel
  obtain ⟨m, hm, hfacts⟩ := List.map_eq_singleton_iff.mp hmethods
  obtain ⟨hidents, hurl⟩ := Prod.mk.inj hfacts
  obtain ⟨c, hc, hmem⟩ := List.mem_flatMap.mp
    (hm ▸ List.mem_singleton_self m : m ∈ (itemsByParamValue.acceptedClients .unchecked).flatMap
      (·.methods))
  obtain ⟨a, ha, hident⟩ := List.map_eq_singleton_iff.mp hidents
  refine ⟨c, hc, m, hmem, ⟨a, ha ▸ List.mem_singleton_self a, ?_⟩, hurl⟩
  rw [hident]
  decide

end Document

end ApiForge
