import ApiForge.Proofs.Failure
import ApiForge.Proofs.References
import ApiForge.Proofs.UnitText
import ApiForge.Proofs.Units

/-!
What is known of the units of a generation that checks them. Every unit is checked when it is made,
but the units of the types with a field on a cycle are written anew in the end and not checked
again. Such a unit differs from one that was checked by nothing but pointers around the types of
some fields, one after the other. Main statement: if a pointer around an identifier keeps code
well-formed, every unit that is handed out is well-formed unless a field of its type is held through
a pointer and names a type by something that is no identifier (`units_verified`). Whoever reads code
as `Code.isUnit` does keeps it so (`allowsPointers_of_accepts`); the exception is real, since the
name of a type need not be an identifier (`splitNodes_unverified`).
-/

namespace ApiForge

namespace Config

variable {config : Config} {code : String}

theorem not_rejects_of_verify (h : config.verify code = .ok ()) : ¬ config.Rejects code := by
  intro hrejects
  rw [verify_eq_error_iff.mpr ⟨hrejects, rfl⟩] at h
  cases h

theorem verify_of_accepts (h : config.accepts code = true) : config.verify code = .ok () := by
  rw [verify, h, Bool.not_true, Bool.and_false, if_neg Bool.false_ne_true]

theorem accepts_of_not_rejects (hverify : config.verifySyntax = true)
    (h : ¬ config.Rejects code) : config.accepts code = true := by
  rw [← Bool.not_eq_false]
  exact fun hcode => h ⟨hverify, hcode⟩

/-- A unit that is well-formed stays so when a field whose type is an identifier is held through a
pointer. -/
structure AllowsPointers (config : Config) : Prop where
  record (r : Record) (notes : Option String) (before : List ModelField) (f : ModelField)
    (after : List ModelField) {target : String} (names : f.type = .reference target)
    (identifier : Code.isName target.toList = true)
    (accepted : config.accepts
      (Emit.recordUnit { r with fields := before ++ f :: after } notes) = true) :
    config.accepts (Emit.recordUnit
      { r with fields := before ++ { f with boxed := true } :: after } notes) = true
  variant (v : Variant) (before : List ModelField) (f : ModelField) (after : List ModelField)
    {target : String} (names : f.type = .reference target)
    (identifier : Code.isName target.toList = true)
    (accepted : config.accepts
      (Emit.variantUnit { v with fields := before ++ f :: after }) = true) :
    config.accepts (Emit.variantUnit
      { v with fields := before ++ { f with boxed := true } :: after }) = true

theorem allowsPointers_of_accepts (h : config.accepts = Code.isUnit) : config.AllowsPointers where
  record r notes before f after _ names identifier accepted := by
    rw [h] at accepted ⊢
    rw [Emit.isUnit_recordUnit_boxed r notes before f after names identifier, accepted]
  variant v before f after _ names identifier accepted := by
    rw [h] at accepted ⊢
    rw [Emit.isUnit_variantUnit_boxed v before f after names identifier, accepted]

end Config

/-- The field is held through a pointer, and what is written inside of it is no identifier. -/
def ModelField.SpellsPointer (f : ModelField) : Prop :=
  f.boxed = true ∧ ∃ target, f.type = .reference target ∧ Code.isName target.toList = false

namespace ModelType

theorem mem_fields_box {g : ReferenceGraph} {t : ModelType} {owner : String}
    (howner : t.name? = some owner) {f : ModelField} (h : f ∈ t.fields) :
    f.box g owner ∈ (t.box g).fields := by
  rw [fields_box, howner]
  exact List.mem_map_of_mem h

/-- What is kept when one field that closes a cycle is boxed is kept when all of them are. -/
theorem map_box_induction {g : ReferenceGraph} {owner : String} {fields : List ModelField}
    {P : List ModelField → Prop} (start : P fields)
    (step : ∀ before f after, f ∈ fields → f.closesCycle g owner = true →
      P (before ++ f :: after) → P (before ++ { f with boxed := true } :: after)) :
    P (fields.map (Field.box g owner)) := by
  -- The fields are boxed from the first to the last; `done` are those that have been.
  have hrest : ∀ rest done, (∀ f ∈ rest, f ∈ fields) → P (done ++ rest) →
      P (done ++ rest.map (Field.box g owner)) := by
    intro rest
    induction rest with
    | nil => exact fun _ _ h => h
    | cons f rest ih =>
      intro done hmem h
      have hfield : P (done ++ f.box g owner :: rest) := by
        rw [Field.box_eq]
        cases hcloses : f.closesCycle g owner with
        | false => simpa using h
        | true => simpa using step done f rest (hmem f List.mem_cons_self) hcloses h
      have hnext := ih (done ++ [f.box g owner]) (fun e he => hmem e (List.mem_cons_of_mem _ he))
        (by simpa using hfield)
      simpa using hnext
  exact hrest fields [] (fun _ hf => hf) start

section Accepted

variable {config : Config} (hpointers : config.AllowsPointers) {g : ReferenceGraph}

include hpointers

theorem accepts_recordUnit_box {r : Record} {notes : Option String}
    (hnames : ∀ f ∈ r.fields, f.closesCycle g r.name = true →
      ∃ target, f.type = .reference target ∧ Code.isName target.toList = true)
    (h : config.accepts (Emit.recordUnit r notes) = true) :
    config.accepts (Emit.recordUnit
      { r with fields := r.fields.map (Field.box g r.name) } notes) = true := by
  refine map_box_induction
    (P := fun fields => config.accepts (Emit.recordUnit { r with fields } notes) = true) h ?_
  intro before f after hf hcloses haccepts
  obtain ⟨target, htype, htarget⟩ := hnames f hf hcloses
  exact hpointers.record r notes before f after htype htarget haccepts

theorem accepts_variantUnit_box {v : Variant}
    (hnames : ∀ f ∈ v.fields, f.closesCycle g v.name = true →
      ∃ target, f.type = .reference target ∧ Code.isName target.toList = true)
    (h : config.accepts (Emit.variantUnit v) = true) :
    config.accepts (Emit.variantUnit
      { v with fields := v.fields.map (Field.box g v.name) }) = true := by
  refine map_box_induction
    (P := fun fields => config.accepts (Emit.variantUnit { v with fields }) = true) h ?_
  intro before f after hf hcloses haccepts
  obtain ⟨target, htype, htarget⟩ := hnames f hf hcloses
  exact hpointers.variant v before f after htype htarget haccepts

/-- The unit of a type whose own is well-formed stays so when its fields are boxed. -/
theorem accepts_box {t : ModelType} {owner : String} (howner : t.name? = some owner)
    (hnames : ∀ f ∈ t.fields, f.closesCycle g owner = true →
      ∃ target, f.type = .reference target ∧ Code.isName target.toList = true)
    {notes : Option String} {before after : String} (hbefore : Emit.typeUnit t notes = some before)
    (haccepts : config.accepts before = true)
    (hafter : Emit.typeUnit (t.box g) notes = some after) : config.accepts after = true := by
  cases t with
  | record r =>
    simp only [Emit.typeUnit, box, Option.some.injEq] at hbefore hafter
    rw [name?, Option.some.injEq] at howner
    subst hbefore hafter howner
    exact accepts_recordUnit_box hpointers hnames haccepts
  | variant v =>
    simp only [Emit.typeUnit, box, Option.some.injEq] at hbefore hafter
    rw [name?, Option.some.injEq] at howner
    subst hbefore hafter howner
    exact accepts_variantUnit_box hpointers hnames haccepts
  | _ =>
    have hsame : some before = some after := hbefore.symm.trans hafter
    rwa [← Option.some.inj hsame]

end Accepted

end ModelType

namespace ModelRun

variable {config : Config} {namespaceName : String} {history : List Making} {run : ModelRun}

/-! The units of a run were all checked when they were put there. -/

theorem makeNamed_of_outcome {name : String} {body : Schema} {notes : Option String}
    {type : ModelType} {code : String} {found : Discovered}
    (h : (render namespaceName name body notes).outcome = .ok ((type, code), found))
    (hverify : config.verify code = .ok ()) :
    makeNamed config namespaceName name body notes = .ok (type, code, found) := by
  rw [makeNamed, h]
  simp only [bind, Except.bind, hverify]
  rfl

theorem not_rejects_of_makeNamed {name : String} {body : Schema} {notes : Option String}
    {type : ModelType} {code : String} {found : Discovered}
    (h : makeNamed config namespaceName name body notes = .ok (type, code, found)) :
    ¬ config.Rejects code := by
  obtain ⟨⟨⟨_, _⟩, _⟩, _, h⟩ := bind_eq_ok h
  obtain ⟨⟨⟩, hverify, h⟩ := bind_eq_ok h
  cases h
  exact Config.not_rejects_of_verify hverify

theorem not_rejects_of_makeUnion {registry : Registry} {group : UnionGroup} {u : DerivedUnion}
    {found : Discovered}
    (h : makeUnion config namespaceName registry group = .ok (some (u, found))) :
    ∀ p ∈ unionUnits namespaceName u, ¬ config.Rejects p.2 := by
  obtain ⟨⟨derived, _⟩, _, h⟩ := bind_eq_ok h
  cases derived with
  | none => cases h
  | some derived =>
    obtain ⟨⟨⟩, hverify, h⟩ := bind_eq_ok h
    cases h
    intro p hp hrejects
    rw [Config.forM_verify_eq_error_iff.mpr ⟨⟨p, hp, hrejects⟩, rfl⟩] at hverify
    cases hverify

/-- No type or plan of the run has a unit that is rejected. -/
def Checked (config : Config) (namespaceName : String) (run : ModelRun) : Prop :=
  ∀ p ∈ deposits namespaceName run, ¬ config.Rejects p.2

theorem Checked.of_perm {later : ModelRun} {units : List (String × String)}
    (h : Checked config namespaceName run) (hunits : ∀ p ∈ units, ¬ config.Rejects p.2)
    (hperm : (deposits namespaceName run ++ units).Perm (deposits namespaceName later)) :
    Checked config namespaceName later := by
  intro p hp
  rcases List.mem_append.mp (hperm.mem_iff.mpr hp) with hp | hp
  · exact h p hp
  · exact hunits p hp

theorem invariant_checked : Invariant config namespaceName fun _ run =>
    Kept namespaceName run ∧ Checked config namespaceName run := by
  have hkept : Invariant config namespaceName fun _ run => Kept namespaceName run := invariant_kept
  constructor
  case start => exact ⟨hkept.start, nofun⟩
  case note =>
    intro history run p h
    exact ⟨@hkept.note history run p h.1, h.2⟩
  case commit =>
    intro history run found h
    exact ⟨@hkept.commit history run found h.1, h.2⟩
  case take =>
    intro history run pending unions h
    exact ⟨@hkept.take history run pending unions h.1, h.2⟩
  case named =>
    rintro history run key body notes type code found ⟨h, hchecked⟩ hfree hmake
    refine ⟨h.addNamed hfree hmake, ?_⟩
    have hnew : Name.className key ∉ run.typeNames := h.taken.notMem_typeNames hfree
    have hunits : ∀ p ∈ [(Name.className key, code)], ¬ config.Rejects p.2 := by
      intro p hp
      rw [List.mem_singleton.mp hp]
      exact not_rejects_of_makeNamed hmake
    have hclaim : Checked config namespaceName (run.claim (Name.className key)) := hchecked
    refine hclaim.of_perm hunits ?_
    exact deposits_addNamed (run.claim _) hnew (fun hmem => hnew (h.noted _ hmem)) hmake
  case union =>
    rintro history run group u found ⟨h, hchecked⟩ hmake
    refine ⟨h.addUnion hmake, ?_⟩
    have hunits := not_rejects_of_makeUnion hmake
    obtain ⟨_, vs, rfl, _⟩ := of_makeUnion hmake
    exact hchecked.of_perm hunits (deposits_addUnion namespaceName _ run _ found)

theorem Kept.mem_deposits (h : Kept namespaceName run) {p : String × String}
    (hp : p ∈ run.units) : p ∈ deposits namespaceName run := by
  obtain ⟨put, hput, hperm⟩ := h.units
  rw [hput, (Entries.putAll_perm_lasting put).mem_iff] at hp
  exact hperm.mem_iff.mp ((Entries.lasting_sublist put).subset hp)

/-! Writing units anew. -/

theorem typeDeposit_of_renewed? {types : List ModelType} {notes : Entries String}
    {name code : String} (h : renewed? types notes name = some code) :
    ∃ t ∈ types, typeDeposit notes t = some (name, code) := by
  rw [renewed?] at h
  cases hfind : types.find? (·.name? == some name) with
  | none =>
    rw [hfind] at h
    cases h
  | some t =>
    have hname : t.name? = some name := by simpa using List.find?_some hfind
    have hunit : Emit.typeUnit t (notes.get? name) = some code := by
      rw [hfind] at h
      cases t with
      | record r => exact h
      | variant v => exact h
      | _ => cases h
    refine ⟨t, List.mem_of_find?_eq_some hfind, ?_⟩
    rw [typeDeposit, hname, Option.bind_some, hunit, Option.map_some]

/-- A unit that is written anew is that of a type. -/
theorem mem_foldl_rerender {types : List ModelType} {notes : Entries String}
    {changes : List String} {units : Entries String} {p : String × String}
    (h : p ∈ changes.foldl (rerender types notes) units) :
    p ∈ units ∨ ∃ t ∈ types, typeDeposit notes t = some p := by
  rw [foldl_rerender_eq_map] at h
  obtain ⟨q, hq, rfl⟩ := List.mem_map.mp h
  rw [renew]
  split
  · cases hrenewed : renewed? types notes q.1 with
    | none => exact .inl hq
    | some code => exact .inr (typeDeposit_of_renewed? hrenewed)
  · exact .inl hq

variable (hverify : config.verifySyntax = true) (hchecked : Checked config namespaceName run)

include hverify hchecked

theorem Checked.typeUnit {t : ModelType} (ht : t ∈ run.types) {name code : String}
    (hname : t.name? = some name) (hcode : Emit.typeUnit t (run.notes.get? name) = some code) :
    config.accepts code = true := by
  have hdeposit : typeDeposit run.notes t = some (name, code) := by
    rw [typeDeposit, hname, Option.bind_some, hcode, Option.map_some]
  have hmem : (name, code) ∈ deposits namespaceName run :=
    List.mem_append_left _ (List.mem_filterMap.mpr ⟨t, ht, hdeposit⟩)
  exact Config.accepts_of_not_rejects hverify (hchecked _ hmem)

/-- Units that were checked are well-formed, and so are those that boxing writes anew, unless one of
the boxed fields names its type by something that is no identifier. -/
theorem Checked.accepts_finish (hkept : Kept namespaceName run)
    (hpointers : config.AllowsPointers) {p : String × String}
    (hp : p ∈ (run.finish config).units) : config.accepts p.2 = true ∨
      ∃ t ∈ (run.finish config).types, t.name? = some p.1 ∧ ∃ f ∈ t.fields, f.SpellsPointer := by
  rcases mem_foldl_rerender hp with hp | ⟨after, hafter, hdeposit⟩
  · exact .inl (Config.accepts_of_not_rejects hverify (hchecked p (hkept.mem_deposits hp)))
  obtain ⟨t, ht, rfl⟩ := ModelType.mem_boxAll.mp hafter
  obtain ⟨owner, howner⟩ := hkept.named t ht
  obtain ⟨before, hbefore, _⟩ := @typeDeposit_of_name run.notes t owner howner
  rw [typeDeposit, ModelType.name?_box, howner, Option.bind_some,
    Option.map_eq_some_iff] at hdeposit
  obtain ⟨code, hcode, rfl⟩ := hdeposit
  by_cases hspelled : ∃ f ∈ (t.box (.ofTypes run.types)).fields, f.SpellsPointer
  · exact .inr ⟨_, hafter, (ModelType.name?_box _ _).trans howner, hspelled⟩
  refine .inl (ModelType.accepts_box hpointers howner ?_ hbefore
    (hchecked.typeUnit hverify ht howner hbefore) hcode)
  intro f hf hcloses
  obtain ⟨target, htype, _⟩ := Field.closesCycle_ofTypes_iff.mp hcloses
  refine ⟨target, htype, ?_⟩
  by_contra hname
  refine hspelled ⟨f.box (.ofTypes run.types) owner, ModelType.mem_fields_box howner hf, ?_, target,
    ?_, by simpa using hname⟩
  · rw [Field.boxed_box, hcloses, Bool.or_true]
  · rw [Field.type_box, htype]

end ModelRun

namespace Document

open Client

variable {config : Config} {d : Document} {g : Generated}

/-- With the check on, every unit of clients is well-formed code, and so is every unit of models,
those that are written anew in the end included, unless its type has a field behind a pointer whose
type is no identifier. -/
theorem units_verified (hpointers : config.AllowsPointers) (hverify : config.verifySyntax = true)
    (h : d.generate config = .ok g) :
    (∀ p ∈ g.clients, config.accepts p.2 = true) ∧ ∀ p ∈ g.models, config.accepts p.2 = true ∨
      ∃ t ∈ g.types, t.name? = some p.1 ∧ ∃ f ∈ t.fields, f.SpellsPointer := by
  obtain ⟨herror, rfl⟩ := generate_eq_ok_iff.mp h
  obtain ⟨history, hreached⟩ := reached_modelRun config d
  obtain ⟨hkept, hchecked⟩ := hreached.of_invariant ModelRun.invariant_checked
  have haccepts : ∀ {code}, config.verify code = .ok () → config.accepts code = true :=
    fun hcode => Config.accepts_of_not_rejects hverify (Config.not_rejects_of_verify hcode)
  refine ⟨fun p hp => ?_, fun p hp => hchecked.accepts_finish hverify hkept hpointers hp⟩
  dsimp only at hp
  rw [units_generate, List.mem_cons] at hp
  rcases hp with rfl | hp
  · exact haccepts herror
  · obtain ⟨q, hq, rfl⟩ := List.mem_map.mp hp
    obtain ⟨hclient, _⟩ := mem_shelf hq
    exact haccepts (accepts_iff.mp (mem_acceptedClients.mp hclient).2)

/-! Documents with one schema. -/

theorem modelRun_of_schema {key : String} {schema : Schema} {type : ModelType} {code : String}
    (hschemas : d.schemas = [(key, schema)]) (hfound : (Clients.generate config d).found = {})
    (hskip : config.isSkipped (Name.className key) = false)
    (hbody : ModelRun.bodyOf schema = some schema)
    (hmake : ModelRun.makeNamed config d.info.modelsNamespace (Name.className key) schema
      (ModelRun.notesFor config key schema) = .ok (type, code, {})) :
    d.modelRun config = (({} : ModelRun).claim (Name.className key)).addNamed (Name.className key)
      (ModelRun.notesFor config key schema) type code {} := by
  have hcomponent : ModelRun.generateComponent config d.info.modelsNamespace {} key schema =
      (({} : ModelRun).claim (Name.className key)).addNamed (Name.className key)
        (ModelRun.notesFor config key schema) type code {} := by
    rw [ModelRun.generateComponent, hskip, hbody, if_neg Bool.false_ne_true]
    exact ModelRun.generateNamed_of_ok rfl hmake
  have hsettle : ∀ run : ModelRun, run.next? false = none →
      run.settle config d.info.modelsNamespace false = run := by
    intro run hrun
    rw [ModelRun.settle, hrun]
  have hcomponents : ModelRun.generateComponents config d.info.modelsNamespace {} d.schemas =
      (({} : ModelRun).claim (Name.className key)).addNamed (Name.className key)
        (ModelRun.notesFor config key schema) type code {} := by
    rw [ModelRun.generateComponents, hschemas, List.foldl_cons, List.foldl_nil]
    dsimp only
    rw [hcomponent, hsettle _ rfl]
  rw [modelRun, ModelRun.afterCalls, calls, List.foldl_cons, List.foldl_cons, List.foldl_nil,
    ModelRun.call, ModelRun.call, hcomponents, hfound, ModelRun.generateDiscovered,
    hsettle _ rfl]
  rfl

/-! Two documents with a record that holds itself. -/

def linkSchema : Schema :=
  .node {} (.object [("next", .node {} (.reference "#/components/schemas/Node"))] [])

def linkedNodes : Document where
  openapi := "3.0.0"
  info := { title := "Demo", version := "1.0" }
  schemas := [("Node", linkSchema)]

/-- The type of the record, before its field is boxed. -/
def nodeRecord : Record where
  name := "Node"
  namespaceName := "DemoApiClientV1.Models"
  fields := [{ name := "Next", wireName := "next", type := .reference "Node" }]

/-- The name of the record reads as a type, a comma and a field of another. What its unit says of
the schema opens a comment that goes over the declaration of the record; the name of its field ends
the comment and begins another declaration. -/
def splitSchema : Schema :=
  .node {} (.object
    [("*/struct S\x7b//", .node {} (.reference "#/components/schemas/A,pub\tb:B"))]
    ["*/struct S\x7b//", "x\n/*/*"])

def splitNodes : Document where
  openapi := "3.0.0"
  info := linkedNodes.info
  schemas := [("A,pub\tb:B", splitSchema)]

def splitNotes : String := Emit.schemaNotes "A,pub\tb:B" splitSchema

def splitRecord (boxed : Bool) : Record where
  name := "A,pub\tb:B"
  namespaceName := "DemoApiClientV1.Models"
  fields := [{
    name := "StructS"
    wireName := "*/struct S\x7b//"
    type := .reference "A,pub\tb:B"
    required := true
    boxed }]

theorem names_linkedNodes : linkedNodes.info.namespaceName = "DemoApiClientV1" ∧
    linkedNodes.info.modelsNamespace = "DemoApiClientV1.Models" ∧
    Name.className "Node" = "Node" ∧ Name.className "A,pub\tb:B" = "A,pub\tb:B" ∧
    Code.isName "Node".toList = true := by
  decide

theorem boxed_nodeRecord :
    ((ModelType.boxAll [.record nodeRecord]).flatMap (·.fields)).map (·.boxed) = [true] := by
  decide

theorem boxAll_splitRecord :
    ModelType.boxAll [.record (splitRecord false)] = [.record (splitRecord true)] := by
  have hcloses : ∀ f ∈ (splitRecord false).fields,
      f.closesCycle (.ofTypes [.record (splitRecord false)]) "A,pub\tb:B" = true := by
    decide
  have hfields : (splitRecord false).fields.map
      (Field.box (.ofTypes [.record (splitRecord false)]) "A,pub\tb:B") =
        (splitRecord true).fields := by
    rw [List.map_congr_left fun f hf => by rw [Field.box_eq, hcloses f hf]]
    rfl
  exact congrArg (fun fields => [ModelType.record { splitRecord true with fields }]) hfields

theorem boxChanges_splitRecord :
    ModelType.boxChanges [.record (splitRecord false)] = ["A,pub\tb:B"] := by
  rw [ModelType.boxChanges, boxAll_splitRecord]
  rfl

/-! Their units, and the one that clients share. -/

theorem isUnit_nodeRecord : Code.isUnit (Emit.recordUnit nodeRecord none) = true := by
  have hunit : Emit.recordUnit nodeRecord none = Emit.lines
      ["//! Generated from \x60DemoApiClientV1.Models\x60.",
        "#![allow(unused_imports)]",
        "",
        "use serde::\x7bDeserialize, Serialize\x7d;",
        "use super::*;",
        "",
        "#[derive(Debug, Clone, PartialEq, Serialize, Deserialize)]",
        "pub struct Node \x7b",
        "    #[serde(rename = \"next\", default, skip_serializing_if = \"Option::is_none\")]",
        "    pub next: Option<Node>,",
        "\x7d"] := by decide +kernel
  rw [hunit]
  apply Emit.Spelled.isUnit_lines (n := 500)
  · repeat constructor
  · decide

/-- The lines of the unit whose record has the split name, with that of its field. -/
def splitLines (field : String) : List String :=
  ["//! Generated from \x60DemoApiClientV1.Models\x60.",
    "#![allow(unused_imports)]",
    "",
    "use serde::\x7bDeserialize, Serialize\x7d;",
    "use super::*;",
    "",
    "// Schema: A,pub\tb:B",
    "// Type: object",
    "// Format: N/A",
    "// Nullable: false",
    "// Deprecated: false",
    "// Required properties:",
    "// - */struct S\x7b//",
    "// - x",
    "/*/*",
    "// Properties:",
    "// - */struct S\x7b//: $ref",
    "#[derive(Debug, Clone, PartialEq, Serialize, Deserialize)]",
    "pub struct A,pub\tb:B \x7b",
    "    #[serde(rename = \"*/struct S\x7b//\")]",
    field,
    "\x7d"]

/-- In brackets the name of the record is no type. -/
theorem isUnit_splitRecord (boxed : Bool) :
    Code.isUnit (Emit.recordUnit (splitRecord boxed) (some splitNotes)) = !boxed := by
  have hheld : Emit.recordUnit (splitRecord true) (some splitNotes) =
      Emit.lines (splitLines "    pub struct_s: Box<A,pub\tb:B>,") := by decide +kernel
  have hplain : Emit.recordUnit (splitRecord false) (some splitNotes) =
      Emit.lines (splitLines "    pub struct_s: A,pub\tb:B,") := by decide +kernel
  cases boxed
  · rw [hplain]
    apply Emit.Spelled.isUnit_lines (n := 1000)
    · repeat constructor
    · decide +kernel
  · rw [hheld]
    apply Emit.Spelled.isUnit_lines (n := 1000)
    · repeat constructor
    · decide +kernel

theorem isUnit_errorUnit : Code.isUnit (errorUnit "DemoApiClientV1") = true := by
  have hheader : Emit.header "DemoApiClientV1" [Emit.unusedImports] = Emit.lines
      ["//! Generated from \x60DemoApiClientV1\x60.", "#![allow(unused_imports)]", ""] := by
    decide
  rw [errorUnit, hheader, errorUnitBody, Emit.codeLines, ← Emit.lines_append]
  apply Emit.Spelled.isUnit_lines (n := 5000)
  · apply Emit.Spelled.append
    · repeat constructor
    · apply Emit.Spelled.map_braced
      repeat constructor
  · decide +kernel

theorem verify_errorUnit (haccepts : config.accepts = Code.isUnit)
    (hinfo : d.info = linkedNodes.info) :
    config.verify (errorUnit d.info.namespaceName) = .ok () := by
  refine Config.verify_of_accepts ?_
  rw [haccepts, hinfo, names_linkedNodes.1]
  exact isUnit_errorUnit

theorem types_linkedNodes : (linkedNodes.modelRun {}).types = [.record nodeRecord] := by
  obtain ⟨-, hnamespace, hname, -⟩ := names_linkedNodes
  have hmake : ModelRun.makeNamed {} linkedNodes.info.modelsNamespace (Name.className "Node")
      linkSchema (ModelRun.notesFor {} "Node" linkSchema) =
        .ok (.record nodeRecord, Emit.recordUnit nodeRecord none, {}) := by
    rw [hname, hnamespace]
    exact ModelRun.makeNamed_of_outcome rfl (Config.verify_of_accepts isUnit_nodeRecord)
  rw [modelRun_of_schema rfl rfl (by rw [hname]; decide) rfl hmake]
  rfl

theorem linkedNodes_verified :
    Config.AllowsPointers {} ∧ ({} : Config).verifySyntax = true ∧
      ∃ g, linkedNodes.generate {} = .ok g ∧
        (g.types.flatMap (·.fields)).map (·.boxed) = [true] ∧
        (∀ p ∈ g.clients, Code.isUnit p.2 = true) ∧ ∀ p ∈ g.models, Code.isUnit p.2 = true := by
  have hpointers : Config.AllowsPointers {} := Config.allowsPointers_of_accepts rfl
  have hverify : Config.verify {} (errorUnit linkedNodes.info.namespaceName) = .ok () :=
    verify_errorUnit rfl rfl
  have hgenerated := generate_eq_ok_iff.mpr ⟨hverify, rfl⟩
  obtain ⟨hclients, hmodels⟩ := units_verified hpointers rfl hgenerated
  refine ⟨hpointers, rfl, _, hgenerated, ?_, hclients, fun p hp => ?_⟩
  · dsimp only
    rw [types_linkedNodes, boxed_nodeRecord]
  · refine (hmodels p hp).resolve_right ?_
    rintro ⟨t, ht, -, f, hf, -, target, htype, htarget⟩
    dsimp only at ht
    rw [types_linkedNodes] at ht
    obtain ⟨before, hbefore, rfl⟩ := ModelType.mem_boxAll.mp ht
    obtain rfl := List.mem_singleton.mp hbefore
    obtain ⟨field, hfield, rfl⟩ := List.mem_map.mp hf
    obtain rfl := List.mem_singleton.mp hfield
    rw [Field.type_box] at htype
    obtain rfl := ModelType.reference.inj htype
    obtain ⟨-, -, -, -, hisName⟩ := names_linkedNodes
    rw [hisName] at htarget
    cases htarget

theorem modelRun_splitNodes : splitNodes.modelRun { emitMetadata := true } =
    (({} : ModelRun).claim "A,pub\tb:B").addNamed "A,pub\tb:B" (some splitNotes)
      (.record (splitRecord false)) (Emit.recordUnit (splitRecord false) (some splitNotes)) {} := by
  obtain ⟨-, hnamespace, -, hname, -⟩ := names_linkedNodes
  have hmake : ModelRun.makeNamed { emitMetadata := true } splitNodes.info.modelsNamespace
      (Name.className "A,pub\tb:B") splitSchema
      (ModelRun.notesFor { emitMetadata := true } "A,pub\tb:B" splitSchema) =
        .ok (.record (splitRecord false),
          Emit.recordUnit (splitRecord false) (some splitNotes), {}) := by
    rw [hname, splitNodes, hnamespace]
    exact ModelRun.makeNamed_of_outcome rfl (Config.verify_of_accepts (isUnit_splitRecord false))
  rw [modelRun_of_schema rfl rfl (by rw [hname]; decide) rfl hmake, hname]
  rfl

/-- A unit that was put there well-formed may be handed out as none. -/
theorem splitNodes_unverified : ∃ g, splitNodes.generate { emitMetadata := true } = .ok g ∧
    g.issues = [] ∧ ∃ p ∈ g.models, Code.isUnit p.2 = false := by
  have hverify : Config.verify { emitMetadata := true }
      (errorUnit splitNodes.info.namespaceName) = .ok () := verify_errorUnit rfl rfl
  have hunits : ((splitNodes.modelRun { emitMetadata := true }).finish
      { emitMetadata := true }).units =
        [("A,pub\tb:B", Emit.recordUnit (splitRecord true) (some splitNotes))] := by
    rw [modelRun_splitNodes]
    show (ModelType.boxChanges [.record (splitRecord false)]).foldl
      (ModelRun.rerender (ModelType.boxAll [.record (splitRecord false)]) _) _ = _
    rw [boxChanges_splitRecord, boxAll_splitRecord]
    rfl
  refine ⟨_, generate_eq_ok_iff.mpr ⟨hverify, rfl⟩, ?_, ?_⟩
  · dsimp only
    rw [modelRun_splitNodes]
    rfl
  · dsimp only
    rw [hunits]
    exact ⟨_, List.mem_cons_self, isUnit_splitRecord true⟩

end Document

end ApiForge
