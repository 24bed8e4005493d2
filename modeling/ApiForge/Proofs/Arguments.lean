import ApiForge.Client.Method
import ApiForge.Proofs.FreshName
import ApiForge.Proofs.Resolution

/-!
The arguments of a method. Each takes an identifier that none before it has, and what stands in the
path must be given, so that putting the required ones first changes neither. Main statement:
`returns_arguments`.
-/

namespace ApiForge.Client

open Resolving

/-- Arguments with identifiers that differ and are none of those in `used`, where what stands in
the path must be given. -/
structure Orderly (used : List String) (arguments : List Argument) : Prop where
  nodup : (arguments.map (·.ident)).Nodup
  unused : ∀ a ∈ arguments, a.ident ∉ used
  required : ∀ a ∈ arguments, a.place = .path → a.required = true

namespace Orderly

variable {used : List String} {a : Argument} {arguments more : List Argument}

theorem nil : Orderly used [] := ⟨.nil, nofun, nofun⟩

theorem cons (hident : a.ident ∉ used) (hpath : a.place = .path → a.required = true)
    (h : Orderly (a.ident :: used) arguments) : Orderly used (a :: arguments) := by
  refine ⟨?_, ?_, List.forall_mem_cons.mpr ⟨hpath, h.required⟩⟩
  · rw [List.map_cons, List.nodup_cons]
    refine ⟨fun hmem => ?_, h.nodup⟩
    obtain ⟨b, hb, hsame⟩ := List.mem_map.mp hmem
    exact h.unused b hb (hsame ▸ List.mem_cons_self)
  · refine List.forall_mem_cons.mpr ⟨hident, fun b hb hused => ?_⟩
    exact h.unused b hb (List.mem_cons_of_mem _ hused)

theorem append (h : Orderly used arguments) (hmore : Orderly (arguments.map (·.ident)) more) :
    Orderly [] (arguments ++ more) := by
  refine ⟨?_, fun _ _ => List.not_mem_nil, ?_⟩
  · rw [List.map_append, List.nodup_append]
    refine ⟨h.nodup, hmore.nodup, ?_⟩
    rintro ident hident other hother rfl
    obtain ⟨b, hb, rfl⟩ := List.mem_map.mp hother
    exact hmore.unused b hb hident
  · exact List.forall_mem_append.mpr ⟨h.required, hmore.required⟩

theorem perm (h : Orderly used arguments) (hperm : arguments.Perm more) : Orderly used more := by
  refine ⟨(hperm.map _).nodup_iff.mp h.nodup, ?_, ?_⟩
  · exact fun b hb => h.unused b (hperm.mem_iff.mpr hb)
  · exact fun b hb => h.required b (hperm.mem_iff.mpr hb)

/-- An identifier belongs to one argument. -/
theorem eq_of_ident_eq (h : Orderly used arguments) {b : Argument} (ha : a ∈ arguments)
    (hb : b ∈ arguments) (hident : a.ident = b.ident) : a = b :=
  List.inj_on_of_nodup_map h.nodup ha hb hident

end Orderly

theorem requiredFirst_perm (arguments : List Argument) :
    (requiredFirst arguments).Perm arguments :=
  List.filter_append_perm Argument.required arguments

/-- The arguments of parameters, made one after the other where some identifiers are taken. Only a
parameter with the role of an argument has one, and its identifier is taken from then on. -/
inductive ArgumentsOf : List String → List Parameter → List (Argument × ModelType) → Prop
  | nil {used : List String} : ArgumentsOf used [] []
  | argument {used : List String} {p : Parameter} {rest : List Parameter} {place : Place}
      {t : ModelType} {more : List (Argument × ModelType)} (role : roleOf p = .argument place)
      (h : ArgumentsOf ((parameterArgument used p place t).ident :: used) rest more) :
      ArgumentsOf used (p :: rest) ((parameterArgument used p place t, t) :: more)
  | skip {used : List String} {p : Parameter} {rest : List Parameter}
      {given : List (Argument × ModelType)} (role : ∀ place, roleOf p ≠ .argument place)
      (h : ArgumentsOf used rest given) : ArgumentsOf used (p :: rest) given

theorem returns_parameterArguments (used : List String) (ps : List Parameter) :
    Returns (parameterArguments used ps) (ArgumentsOf used ps) := by
  induction ps generalizing used with
  | nil => exact .pure .nil
  | cons p rest ih =>
    rw [parameterArguments]
    split
    · next place hrole =>
      exact Returns.bind fun t => (ih _).andThen fun more hmore => .pure (.argument hrole hmore)
    · next hrole => exact (ih used).mono fun given hgiven => .skip hrole hgiven

theorem ArgumentsOf.orderly {used : List String} {ps : List Parameter}
    {given : List (Argument × ModelType)} (h : ArgumentsOf used ps given) :
    Orderly used (given.map (·.1)) := by
  induction h with
  | nil => exact .nil
  | @argument used p _ place _ _ role _ ih =>
    refine .cons (Name.fresh_notMem used _) ?_ ih
    rintro (rfl : place = .path)
    rfl
  | skip _ _ ih => exact ih

theorem returns_bodyArgument (used : List String) (key : String) (body : RequestBody) :
    Returns (bodyArgument used key body) fun given => Orderly used (given.map (·.1)) := by
  rw [bodyArgument]
  split
  · exact .pure .nil
  · refine Returns.bind fun type => .pure (.cons (Name.fresh_notMem used _) ?_ .nil)
    intro hpath
    cases hpath

/-- What a planned method is made of: the arguments of the parameters, then that of the body if the
operation takes one, and the headers and the template that come from the document. -/
theorem returns_planned {info : Info} {e : Endpoint} {P : List (Argument × ModelType) → Prop}
    {Q : List (Argument × ModelType) → List (Argument × ModelType) → Prop}
    (hgiven : Returns (parameterArguments [] e.parameters) P)
    (hbody : ∀ given key request, P given → e.operation.requestBody = some request →
      Returns (bodyArgument (given.map (·.1.ident)) key request) (Q given))
    (hnone : ∀ given, P given → e.operation.requestBody = none → Q given []) :
    Returns (planMethod info e) fun r => ∀ m ∈ r, ∃ given body, P given ∧ Q given body ∧
      m.endpoint = e ∧ m.arguments = requiredFirst ((given ++ body).map (·.1)) ∧
      m.constantHeaders = versionHeaders info e.parameters ∧
      (m.urlTemplate, m.pathArguments) = urlTemplate e.path (pathArgument? m.arguments) := by
  unfold planMethod
  split
  · refine .pure fun m hm => ?_
    cases hm
  · refine hgiven.andThen fun given hP => ?_
    dsimp only
    split
    all_goals refine Returns.andThen (P := Q given) ?_ fun body hQ => ?_
    · next request hrequest => exact hbody given _ request hP hrequest
    rotate_left
    · next hrequest => exact .pure (hnone given hP hrequest)
    all_goals
      refine Returns.bind fun r => .pure fun m hm => ?_
      obtain rfl := Option.some.inj hm
      exact ⟨given, body, hP, hQ, rfl, rfl, rfl, rfl⟩

/-- A method that is planned, with what can be told of it. -/
theorem exists_planned {info : Info} {e : Endpoint} {α : Type} {f : Method → α} {a : α}
    (h : ((planMethod info e).outcome.toOption.bind (·.1)).map f = some a) :
    ∃ m found, (planMethod info e).outcome = .ok (some m, found) ∧ f m = a := by
  obtain ⟨m, hm, rfl⟩ := Option.map_eq_some_iff.mp h
  obtain ⟨⟨r, found⟩, hoption, rfl⟩ := Option.bind_eq_some_iff.mp hm
  cases houtcome : (planMethod info e).outcome with
  | error p =>
    rw [houtcome] at hoption
    cases hoption
  | ok r =>
    rw [houtcome] at hoption
    obtain rfl := Option.some.inj hoption
    exact ⟨m, found, rfl, rfl⟩

/-- The arguments of a method are in order, and its template and what fills it are made from the
path and from them. -/
theorem returns_arguments (info : Info) (e : Endpoint) :
    Returns (planMethod info e) fun r => ∀ m ∈ r, Orderly [] m.arguments ∧
      (m.urlTemplate, m.pathArguments) = urlTemplate e.path (pathArgument? m.arguments) := by
  have hbody : ∀ (given : List (Argument × ModelType)) (key : String) (request : RequestBody),
      Returns (bodyArgument (given.map (·.1.ident)) key request) fun body =>
        Orderly ((given.map (·.1)).map (·.ident)) (body.map (·.1)) := by
    intro given key request
    rw [List.map_map]
    exact returns_bodyArgument _ key request
  intro s r hr m hm
  obtain ⟨given, body, hgiven, hbody, -, harguments, -, htemplate⟩ :=
    returns_planned (returns_parameterArguments [] e.parameters)
      (fun given key request _ _ => hbody given key request) (fun _ _ _ => .nil) s r hr m hm
  refine ⟨?_, htemplate⟩
  rw [harguments, List.map_append]
  exact (hgiven.orderly.append hbody).perm (requiredFirst_perm _).symm

end ApiForge.Client
