import ApiForge.Proofs.Arguments
import ApiForge.Proofs.Signature
import ApiForge.Proofs.SnakeIdent

/-!
What becomes of the parameters of an operation. Each of them that goes into the path, the query or
a header is one argument, but for the header that bears the version of the document, which is sent
with a fixed value; and the body is one argument more if it has a schema. Main statement: the
arguments of a method are these, with the required ones moved to the front
(`arguments_of_parameters`).
-/

namespace ApiForge.Client

open Resolving

/-- The places that locations stand for. -/
inductive Locates : String → Place → Prop
  | path : Locates "path" .path
  | query : Locates "query" .query
  | header : Locates "header" .header

/-- A name is that of the version header, each letter of it small or capital. -/
def NamesVersion (name : String) : Prop :=
  List.Forall₂ (fun c d => c = d ∨ c = d.toUpper) name.toList versionHeader.toList

instance (name : String) : Decidable (NamesVersion name) :=
  inferInstanceAs (Decidable (List.Forall₂ _ _ _))

/-- A parameter is a header that bears the version of the document. -/
def IsVersion (p : Parameter) : Prop := p.location = "header" ∧ NamesVersion p.name

instance : DecidablePred IsVersion := fun p =>
  inferInstanceAs (Decidable (p.location = "header" ∧ NamesVersion p.name))

def IsGiven (p : Parameter) : Prop := p.location ∈ ["path", "query", "header"] ∧ ¬ IsVersion p

instance : DecidablePred IsGiven := fun p =>
  inferInstanceAs (Decidable (p.location ∈ ["path", "query", "header"] ∧ ¬ IsVersion p))

/-- An argument stands for a parameter. -/
structure Carries (p : Parameter) (a : Argument) : Prop where
  wire : a.wire = p.name
  place : Locates p.location a.place
  required : a.required = true ↔ p.location = "path" ∨ p.required = true

/-- The arguments for the body of an operation: one if the payload to use has a schema. -/
structure BodyArguments (e : Endpoint) (body : List Argument) : Prop where
  length_eq : body.length = if e.requestSchema.isSome then 1 else 0
  place : ∀ a ∈ body, a.place = .body

/-- Arguments in a new order: the required ones first, and otherwise as they stood. -/
structure RequiredFirst (declared arranged : List Argument) : Prop where
  first : arranged.Pairwise fun a b => b.required = true → a.required = true
  stable : ∀ answer, arranged.filter (·.required == answer) =
    declared.filter (·.required == answer)

/-! The order. -/

theorem requiredFirst_requiredFirst (arguments : List Argument) :
    RequiredFirst arguments (requiredFirst arguments) := by
  constructor
  · rw [requiredFirst, List.pairwise_append]
    refine ⟨?_, ?_, ?_⟩
    · exact List.pairwise_of_forall_mem_list fun a ha b _ _ => (List.mem_filter.mp ha).2
    · refine List.pairwise_of_forall_mem_list fun a _ b hb hrequired => ?_
      have hoptional := (List.mem_filter.mp hb).2
      rw [hrequired] at hoptional
      cases hoptional
    · exact fun a ha _ _ _ => (List.mem_filter.mp ha).2
  · intro answer
    rw [requiredFirst, List.filter_append, List.filter_filter, List.filter_filter]
    cases answer with
    | true => simp
    | false => simp

/-! The roles of parameters. -/

theorem toLower_eq_iff {d : Char} (hd : d ∈ versionHeader.toList) (c : Char) :
    c.toLower = d ↔ c = d ∨ c = d.toUpper := by
  by_cases hc : c.toNat < 128
  · have hall : ∀ c : Char, c.toNat < 128 → (versionHeader.toList.all fun d =>
        (c.toLower == d) == (c == d || c == d.toUpper)) = true :=
      Text.forall_toNat_lt (by decide)
    have hcase := List.all_eq_true.mp (hall c hc) d hd
    rw [beq_iff_eq, Bool.eq_iff_iff] at hcase
    simpa using hcase
  · -- A character beyond the first 128 is no letter of theirs and has no other case.
    have hlower : c.toLower = c := by
      refine dif_neg ?_
      rintro ⟨-, hle⟩
      have hle : c.toNat ≤ 90 := hle
      omega
    have hupper : versionHeader.toList.all (fun d => d.toUpper.toNat < 128) = true := by decide
    have hne : c ≠ d.toUpper := by
      rintro rfl
      exact hc (of_decide_eq_true (List.all_eq_true.mp hupper d hd))
    rw [hlower, or_iff_left hne]

theorem map_toLower_eq_iff {s header : List Char}
    (hheader : ∀ d ∈ header, d ∈ versionHeader.toList) :
    s.map Char.toLower = header ↔ List.Forall₂ (fun c d => c = d ∨ c = d.toUpper) s header := by
  induction s generalizing header with
  | nil => rw [List.map_nil, eq_comm, List.forall₂_nil_left_iff]
  | cons c s ih =>
    cases header with
    | nil => simp
    | cons d header =>
      obtain ⟨hd, hheader⟩ := List.forall_mem_cons.mp hheader
      rw [List.map_cons, List.cons.injEq, List.forall₂_cons, toLower_eq_iff hd, ih hheader]

theorem sameIgnoringCase_iff (name : String) :
    sameIgnoringCase name versionHeader = true ↔ NamesVersion name := by
  have hfixed : versionHeader.toList.map Char.toLower = versionHeader.toList := by decide
  rw [sameIgnoringCase, beq_iff_eq, hfixed]
  exact map_toLower_eq_iff fun _ hd => hd

/-- What the role of a parameter says about it. -/
inductive Plays (p : Parameter) : Role → Prop
  | argument {place : Place} (location : Locates p.location place) (given : IsGiven p) :
      Plays p (.argument place)
  | versionHeader (version : IsVersion p) : Plays p .versionHeader
  | dropped (given : ¬ IsGiven p) (version : ¬ IsVersion p) : Plays p .dropped

theorem plays_roleOf (p : Parameter) : Plays p (roleOf p) := by
  have hversion : p.location ≠ "header" → ¬ IsVersion p := fun h hv => h hv.1
  rw [roleOf]
  split
  · next h => exact .argument (h ▸ .path) ⟨by simp [h], hversion (by simp [h])⟩
  · next h => exact .argument (h ▸ .query) ⟨by simp [h], hversion (by simp [h])⟩
  · next h =>
    split
    · next hname => exact .versionHeader ⟨h, (sameIgnoringCase_iff _).mp hname⟩
    · next hname =>
      refine .argument (h ▸ .header) ⟨by simp [h], fun hv => hname ?_⟩
      exact (sameIgnoringCase_iff _).mpr hv.2
  · next hpath hquery hheader =>
    refine .dropped (fun hgiven => ?_) (hversion hheader)
    have hlocation : p.location = "path" ∨ p.location = "query" ∨ p.location = "header" := by
      simpa using hgiven.1
    exact hlocation.elim hpath fun h => h.elim hquery hheader

theorem place_ne_body {location : String} {place : Place} (h : Locates location place) :
    place ≠ .body := by
  rintro rfl
  cases h

theorem roleOf_eq_versionHeader_iff {p : Parameter} : roleOf p = .versionHeader ↔ IsVersion p := by
  constructor
  · intro h
    have hplays := plays_roleOf p
    rw [h] at hplays
    cases hplays with
    | versionHeader version => exact version
  · intro h
    have hplays := plays_roleOf p
    generalize roleOf p = role at hplays
    cases hplays with
    | argument _ given => exact absurd h given.2
    | versionHeader _ => rfl
    | dropped _ version => exact absurd h version

theorem isGiven_of_roleOf {p : Parameter} {place : Place} (h : roleOf p = .argument place) :
    IsGiven p ∧ Locates p.location place := by
  have hplays := plays_roleOf p
  rw [h] at hplays
  cases hplays with
  | argument location given => exact ⟨given, location⟩

theorem not_isGiven_of_roleOf {p : Parameter} (h : ∀ place, roleOf p ≠ .argument place) :
    ¬ IsGiven p := by
  have hplays := plays_roleOf p
  generalize roleOf p = role at h hplays
  cases hplays with
  | argument _ _ => exact absurd rfl (h _)
  | versionHeader version => exact fun hgiven => hgiven.2 version
  | dropped given _ => exact given

/-! The arguments. -/

theorem carries_parameterArgument (used : List String) {p : Parameter} {place : Place}
    (h : Locates p.location place) (t : ModelType) :
    Carries p (parameterArgument used p place t) := by
  refine ⟨rfl, h, ?_⟩
  have hpath : place = .path ↔ p.location = "path" := by
    generalize p.location = location at h
    cases h <;> simp
  simp [parameterArgument, hpath]

theorem map_wire_of_carries {ps : List Parameter} {given : List Argument}
    (h : List.Forall₂ Carries ps given) : given.map (·.wire) = ps.map (·.name) := by
  induction h with
  | nil => rfl
  | cons hcarries _ ih => rw [List.map_cons, List.map_cons, hcarries.wire, ih]

theorem place_of_carries {ps : List Parameter} {given : List Argument}
    (h : List.Forall₂ Carries ps given) : ∀ a ∈ given, a.place ≠ .body := by
  induction h with
  | nil => nofun
  | cons hcarries _ ih => exact List.forall_mem_cons.mpr ⟨place_ne_body hcarries.place, ih⟩

theorem ArgumentsOf.carries {used : List String} {ps : List Parameter}
    {given : List (Argument × ModelType)} (h : ArgumentsOf used ps given) :
    List.Forall₂ Carries (ps.filter IsGiven) (given.map (·.1)) := by
  induction h with
  | nil => exact .nil
  | @argument used p _ place t _ role _ ih =>
    obtain ⟨hgiven, hplace⟩ := isGiven_of_roleOf role
    rw [List.filter_cons, if_pos (decide_eq_true hgiven)]
    exact .cons (carries_parameterArgument used hplace t) ih
  | skip role _ ih =>
    rw [List.filter_cons, if_neg (by simpa using not_isGiven_of_roleOf role)]
    exact ih

theorem returns_bodyArguments {e : Endpoint} {request : RequestBody}
    (hrequest : e.operation.requestBody = some request) (used : List String) (key : String) :
    Returns (bodyArgument used key request) fun body => BodyArguments e (body.map (·.1)) := by
  have hschema : e.requestSchema = Content.schema request.content := by
    rw [Endpoint.requestSchema, hrequest]
    rfl
  rcases hcontent : Content.schema request.content with _ | schema
  · rw [bodyArgument, hcontent]
    exact .pure ⟨by rw [hschema, hcontent]; rfl, by simp⟩
  · rw [bodyArgument, hcontent]
    refine Returns.bind fun t => .pure ⟨by rw [hschema, hcontent]; rfl, ?_⟩
    exact List.forall_mem_singleton.mpr rfl

theorem bodyArguments_nil {e : Endpoint} (hrequest : e.operation.requestBody = none) :
    BodyArguments e [] :=
  ⟨by rw [Endpoint.requestSchema, hrequest]; rfl, nofun⟩

theorem arguments_of_parameters (info : Info) (e : Endpoint) :
    e.parameters = e.item.parameters.filter (fun shared =>
        ∀ p ∈ e.operation.parameters, ¬ (p.name = shared.name ∧ p.location = shared.location)) ++
          e.operation.parameters ∧
      Returns (planMethod info e) fun r => ∀ m ∈ r, ∃ given body : List Argument,
        List.Forall₂ Carries (e.parameters.filter IsGiven) given ∧
          (∀ a ∈ given, a.place ≠ .body) ∧ BodyArguments e body ∧
          RequiredFirst (given ++ body) m.arguments ∧
          m.constantHeaders =
            (e.parameters.filter IsVersion).map fun p => (p.name, info.version) := by
  constructor
  · rw [Endpoint.parameters]
    congr 2
    funext shared
    rw [Bool.eq_iff_iff]
    simp
  · intro s r hr m hm
    obtain ⟨given, body, hgiven, hbody, -, harguments, hheaders, -⟩ :=
      returns_planned (returns_parameterArguments [] e.parameters)
        (Q := fun _ body => BodyArguments e (body.map (·.1)))
        (fun given key request _ hrequest => returns_bodyArguments hrequest _ key)
        (fun given _ hrequest => bodyArguments_nil hrequest) s r hr m hm
    refine ⟨given.map (·.1), body.map (·.1), hgiven.carries, place_of_carries hgiven.carries, hbody,
      ?_, ?_⟩
    · rw [harguments, List.map_append]
      exact requiredFirst_requiredFirst _
    · rw [hheaders, versionHeaders]
      congr 2
      funext p
      exact decide_eq_decide.mpr roleOf_eq_versionHeader_iff

/-! An operation that declares a parameter of its path anew, and has others of every location. -/

def searchItems : Endpoint where
  path := "/shops/\x7bshop\x7d/items"
  item := { parameters := [
    { name := "page", location := "query" },
    { name := "shop", location := "path" },
    { name := "page", location := "header" }] }
  verb := .post
  operation :=
    { parameters := [
        { name := "API-Version", location := "header", required := true },
        { name := "page", location := "query", required := true },
        { name := "session", location := "cookie" },
        { name := "page", location := "query" }]
      requestBody := some { content := [("text/plain", {}), ("application/json",
        { schema := some (.node {} (.primitive "string" none)) })] }
      responses := [("200", {})] }

theorem searchItems_arguments : ∃ m found,
    (planMethod { title := "Shop", version := "2.1" } searchItems).outcome = .ok (some m, found) ∧
      m.arguments.map (fun a => (a.wire, a.required)) =
        [("shop", true), ("page", true), ("page", false), ("page", false), ("", false)] ∧
      m.constantHeaders = [("API-Version", "2.1")] ∧
      ∃ given body : List Argument, RequiredFirst (given ++ body) m.arguments ∧
        given.map (·.wire) = ["shop", "page", "page", "page"] ∧ body.length = 1 := by
  obtain ⟨m, found, hplan, hwires⟩ := @exists_planned { title := "Shop", version := "2.1" }
    searchItems _ (fun m => m.arguments.map fun a => (a.wire, a.required))
    [("shop", true), ("page", true), ("page", false), ("page", false), ("", false)]
    (by decide +kernel)
  obtain ⟨-, hreturns⟩ := arguments_of_parameters { title := "Shop", version := "2.1" } searchItems
  obtain ⟨given, body, hgiven, -, hbody, hfirst, hheaders⟩ := hreturns.of_outcome hplan m rfl
  refine ⟨m, found, hplan, hwires, hheaders, given, body, hfirst, ?_, ?_⟩
  · rw [map_wire_of_carries hgiven]
    decide
  · rw [hbody.length_eq, if_pos]
    decide +kernel

end ApiForge.Client
