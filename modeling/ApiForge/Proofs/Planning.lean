import ApiForge.Proofs.Failure
import ApiForge.Proofs.Signature

/-!
What planning an operation comes to. It comes to the same whatever operations were planned before,
even where it ends in a problem after some of its parameters were resolved (`steady_planMethod`);
what stands in its way can be read off the operation (`ends_planMethod`); and the other operations
of its path have no part in it (`outcome_planMethod_alone`).
-/

namespace ApiForge

open Resolving

/-- Where a resolution comes to the same everywhere, it may as well begin with the names that were
given out before, and leaves only names that the derivation would give. -/
theorem Resolving.Steady.start {α : Type} {m : Resolving α} (h : m.Steady) {names : Name.ClassNames}
    (hnames : names.Faithful) :
    (m.start names).1 = m.outcome ∧ (m.start names).2.Faithful := by
  obtain ⟨r, d, hcomes⟩ := h
  have hstart : ∀ names : Name.ClassNames, names.Faithful →
      (m.start names).1 = r.map (·, d) ∧ (m.start names).2.Faithful := by
    intro names hnames
    obtain ⟨hresult, hfound, hafter⟩ := hcomes { names } hnames
    have hd : (m.after { names }).2.found = d := hfound
    have hstep : m.start names = ((m.after { names }).1.map (·, (m.after { names }).2.found),
        (m.after { names }).2.names) := by
      rw [Resolving.start, ← after]
      rcases m.after { names } with ⟨_ | _, _⟩
      · rfl
      · rfl
    rw [hstep, hresult, hd]
    exact ⟨rfl, hafter⟩
  obtain ⟨hempty, _⟩ := hstart {} fun _ hp => absurd hp List.not_mem_nil
  obtain ⟨hsame, hfaithful⟩ := hstart names hnames
  exact ⟨hsame.trans hempty.symm, hfaithful⟩

/-- What stands in the way of a property is never an ill-formed unit. -/
theorem Schema.obstacle?_ne_unparsableUnit {key : String} {s : Schema} {p : Problem}
    (h : s.obstacle? key = some p) : p ≠ .unparsableUnit := by
  fun_induction Schema.obstacle? key s with
  | case1 notes kind format =>
    rw [problemOf_eq_some_iff] at h
    rintro rfl
    unfold Primitive.ofKind at h
    dsimp only at h
    split at h
    all_goals first | cases h | (split at h <;> cases h)
  | case2 notes items ih => exact ih h
  | case3 => cases h

namespace Client

/-! What stands in the way of an operation. -/

def parameterObstacle? (p : Parameter) : Option Problem :=
  match roleOf p with
  | .argument _ => p.schema.bind (·.obstacle? p.name)
  | _ => none

def contentObstacle? (key : String) (content : Content) : Option Problem :=
  content.schema.bind (·.obstacle? key)

/-- What stands in the way of an operation: of its parameters first, then of its body, and then of
its answer. Without an answer of success nothing is asked. -/
def Endpoint.obstacle? (e : Endpoint) : Option Problem :=
  (selectResponse e.operation.responses).bind fun answer =>
    (e.parameters.findSome? parameterObstacle?).or <|
      (e.operation.requestBody.bind fun body =>
        contentObstacle? (e.stem ++ "Request") body.content).or
      (contentObstacle? (e.stem ++ "Response") answer.2.content)

theorem ends_parameterType (p : Parameter) :
    (parameterType p).Ends (p.schema.bind (·.obstacle? p.name)) := by
  rw [parameterType]
  cases p.schema with
  | none => exact .pure _
  | some schema => exact ends_property p.name schema

theorem ends_parameterArguments (used : List String) (ps : List Parameter) :
    (parameterArguments used ps).Ends (ps.findSome? parameterObstacle?) := by
  induction ps generalizing used with
  | nil => exact .pure _
  | cons p rest ih =>
    rw [parameterArguments, findSome?_cons_eq_or, parameterObstacle?]
    cases roleOf p with
    | argument place =>
      exact (ends_parameterType p).bind fun _ => (ih _).bind_left fun _ => .pure _
    | versionHeader => simpa using ih used
    | dropped => simpa using ih used

theorem ends_bodyArgument (used : List String) (key : String) (body : RequestBody) :
    (bodyArgument used key body).Ends (contentObstacle? key body.content) := by
  rw [bodyArgument, contentObstacle?]
  cases body.content.schema with
  | none => exact .pure _
  | some schema => exact (ends_property key schema).bind_left fun _ => .pure _

theorem ends_responsePayload (key status : String) (response : Response) :
    (responsePayload key status response).Ends (contentObstacle? key response.content) := by
  rw [responsePayload, contentObstacle?]
  cases response.content.schema with
  | none => exact .pure _
  | some schema => exact (ends_property key schema).bind_left fun _ => .pure _

theorem ends_planMethod (info : Info) (e : Endpoint) : (planMethod info e).Ends e.obstacle? := by
  rw [planMethod, Endpoint.obstacle?]
  cases selectResponse e.operation.responses with
  | none => exact .pure _
  | some answer =>
    obtain ⟨status, response⟩ := answer
    refine (ends_parameterArguments [] e.parameters).bind fun given => ?_
    have hpayload := ends_responsePayload (e.stem ++ "Response") status response
    cases e.operation.requestBody with
    | none => exact (Ends.pure _).bind_right fun _ => hpayload.bind_left fun _ => .pure _
    | some body =>
      exact (ends_bodyArgument _ (e.stem ++ "Request") body).bind fun _ =>
        hpayload.bind_left fun _ => .pure _

theorem contentObstacle?_ne_unparsableUnit {key : String} {content : Content} {p : Problem}
    (h : contentObstacle? key content = some p) : p ≠ .unparsableUnit := by
  obtain ⟨schema, _, h⟩ := Option.bind_eq_some_iff.mp h
  exact Schema.obstacle?_ne_unparsableUnit h

theorem Endpoint.obstacle?_ne_unparsableUnit {e : Endpoint} {p : Problem}
    (h : e.obstacle? = some p) : p ≠ .unparsableUnit := by
  obtain ⟨answer, _, h⟩ := Option.bind_eq_some_iff.mp h
  rcases Option.or_eq_some_iff.mp h with h | ⟨_, h⟩
  · obtain ⟨parameter, _, h⟩ := List.exists_of_findSome?_eq_some h
    rw [parameterObstacle?] at h
    split at h
    · obtain ⟨schema, _, h⟩ := Option.bind_eq_some_iff.mp h
      exact Schema.obstacle?_ne_unparsableUnit h
    · cases h
  · rcases Option.or_eq_some_iff.mp h with h | ⟨_, h⟩
    · obtain ⟨body, _, h⟩ := Option.bind_eq_some_iff.mp h
      exact contentObstacle?_ne_unparsableUnit h
    · exact contentObstacle?_ne_unparsableUnit h

/-! What was planned before. -/

theorem steady_parameterType (p : Parameter) : (parameterType p).Steady := by
  rw [parameterType]
  cases p.schema with
  | none => exact .pure _
  | some schema => exact steady_property p.name schema

theorem steady_parameterArguments (used : List String) (ps : List Parameter) :
    (parameterArguments used ps).Steady := by
  induction ps generalizing used with
  | nil => exact .pure _
  | cons p rest ih =>
    rw [parameterArguments]
    cases roleOf p with
    | argument place =>
      exact (steady_parameterType p).bind fun _ => (ih _).bind fun _ => .pure _
    | versionHeader => exact ih used
    | dropped => exact ih used

theorem steady_bodyArgument (used : List String) (key : String) (body : RequestBody) :
    (bodyArgument used key body).Steady := by
  rw [bodyArgument]
  cases body.content.schema with
  | none => exact .pure _
  | some schema => exact (steady_property key schema).bind fun _ => .pure _

theorem steady_responsePayload (key status : String) (response : Response) :
    (responsePayload key status response).Steady := by
  rw [responsePayload]
  cases response.content.schema with
  | none => exact .pure _
  | some schema => exact (steady_property key schema).bind fun _ => .pure _

theorem steady_planMethod (info : Info) (e : Endpoint) : (planMethod info e).Steady := by
  rw [planMethod]
  cases selectResponse e.operation.responses with
  | none => exact .pure _
  | some answer =>
    obtain ⟨status, response⟩ := answer
    refine (steady_parameterArguments [] e.parameters).bind fun given => ?_
    have hpayload := steady_responsePayload (e.stem ++ "Response") status response
    cases e.operation.requestBody with
    | none => exact (Steady.pure _).bind fun _ => hpayload.bind fun _ => .pure _
    | some body =>
      exact (steady_bodyArgument _ (e.stem ++ "Request") body).bind fun _ =>
        hpayload.bind fun _ => .pure _

/-! The other operations of a path. -/

/-- The operation without the others of its path. -/
def Endpoint.alone (e : Endpoint) : Endpoint := { e with item := { e.item with declared := [] } }

def Method.alone (m : Method) : Method := { m with endpoint := m.endpoint.alone }

theorem planMethod_alone (info : Info) (e : Endpoint) :
    planMethod info e.alone = planMethod info e >>= fun r => pure (r.map Method.alone) := by
  have hpath : e.alone.path = e.path := rfl
  have hverb : e.alone.verb = e.verb := rfl
  have hoperation : e.alone.operation = e.operation := rfl
  have hparameters : e.alone.parameters = e.parameters := rfl
  unfold planMethod
  rw [hpath, hverb, hoperation, hparameters]
  cases selectResponse e.operation.responses with
  | none =>
    dsimp only
    rw [pure_bind]
    rfl
  | some answer =>
    obtain ⟨status, response⟩ := answer
    dsimp only
    rw [bind_assoc]
    refine bind_congr fun given => ?_
    cases e.operation.requestBody with
    | none => simp only [bind_assoc, pure_bind, Option.map_some, Method.alone]
    | some body => simp only [bind_assoc, pure_bind, Option.map_some, Method.alone]

theorem outcome_planMethod_alone (info : Info) (e : Endpoint) :
    (planMethod info e.alone).outcome =
      (planMethod info e).outcome.map fun r => (r.1.map Method.alone, r.2) := by
  rw [planMethod_alone, outcome_eq, outcome_eq, after_bind]
  rcases (planMethod info e).after {} with ⟨_ | r, s⟩ <;> rfl

end Client

end ApiForge
