import ApiForge.Proofs.InlineSchema
import ApiForge.Proofs.NameOrigin

/-!
Types whose names mean something else in the units. All units see all types, so a type with a name
that units use without a path takes the place of what they mean by it. The shared unit keeps its
arguments and its problem details apart from the types, but no name of a type is looked at, and
the key of a schema, the name of a property or the title of an alternative may give a type such a
name. Main statement: no type has one exactly when none of the schemas that types are made from
gives one, which holds of every document in which no key does (`generated_hygienic_iff`).
-/

namespace ApiForge

/-- The names that units use without a path: those of the prelude, of serde, and of the error in the
shared unit. -/
def bareNames : List String :=
  ["Option", "Vec", "Box", "String", "Result", "Into", "From", "Serialize", "Deserialize",
    "Serializer", "Deserializer", "Visitor", "MapAccess", Client.errorUnitName]

/-- A name with an ending that no bare name has is no bare name. -/
theorem append_notMem_bareNames {s ending : String}
    (h : ∀ name ∈ bareNames, ¬ ending.toList <:+ name.toList) : s ++ ending ∉ bareNames := by
  intro hmem
  refine h _ hmem ?_
  rw [String.toList_append]
  exact List.suffix_append _ _

/-- The name of the items of a list is no bare name, whatever the list is called. -/
theorem itemName_notMem_bareNames (name : String) : name ++ Resolving.itemSuffix ∉ bareNames :=
  append_notMem_bareNames (by decide)

/-- The name of a marker is no bare name, whatever the property is called. -/
theorem unionName_notMem_bareNames (owner : String) : Name.unionName owner ∉ bareNames :=
  append_notMem_bareNames (by decide)

/-- No type has a bare name. -/
def Generated.Hygienic (g : Generated) : Prop :=
  ∀ t ∈ g.types, ∀ name, t.name? = some name → name ∉ bareNames

/-- What types are made from gives none of them a bare name. -/
def Making.Hygienic : Making → Prop
  | named key _ => Name.className key ∉ bareNames
  | union group _ => ∀ v ∈ group.variants,
      DerivedUnion.variantName group.owner (v.notes.title.getD "") ∉ bareNames

theorem Making.hygienic_iff {m : Making} : m.Hygienic ↔ ∀ name ∈ m.names, name ∉ bareNames := by
  cases m with
  | named key body => rw [Hygienic, names, List.forall_mem_singleton]
  | union group taken =>
    rw [Hygienic, names, List.forall_mem_cons, List.forall_mem_map]
    exact (and_iff_right (unionName_notMem_bareNames group.owner)).symm

namespace Document

variable {config : Config} {d : Document}

/-- No key under which a schema stands has a bare class name, and no property that holds a union
makes one with the title of an alternative. -/
structure Hygienic (d : Document) : Prop where
  keys : ∀ key s, d.Stands key s → Name.className key ∉ bareNames
  titles : ∀ owner notes variants, d.Stands owner (.node notes (.oneOf variants)) →
    ∀ v ∈ variants, DerivedUnion.variantName owner (v.notes.title.getD "") ∉ bareNames

theorem Hygienic.notMem (h : d.Hygienic) {name : String} (hname : d.Derives name) :
    name ∉ bareNames := by
  cases hname with
  | schema hs => exact h.keys _ _ hs
  | items => exact itemName_notMem_bareNames _
  | marker => exact unionName_notMem_bareNames _
  | variant hs hv => exact h.titles _ _ _ hs _ hv

/-- The names of the types are those of what they are made from. -/
theorem exists_type_iff {g : Generated} (h : d.generate config = .ok g) (name : String) :
    (∃ t ∈ g.types, t.name? = some name) ↔ ∃ m ∈ d.makings config, name ∈ m.names := by
  obtain ⟨_, rfl⟩ := generate_eq_ok_iff.mp h
  rw [← mem_typeNames_modelRun, ModelRun.typeNames, ← ModelRun.names_boxAll, List.mem_filterMap]

/-- No type has a bare name exactly when nothing that types are made from gives one. No document in
which no key gives one has a type with one. -/
theorem generated_hygienic_iff {g : Generated} (h : d.generate config = .ok g) :
    (g.Hygienic ↔ ∀ m ∈ d.makings config, m.Hygienic) ∧ (d.Hygienic → g.Hygienic) := by
  have hiff : g.Hygienic ↔ ∀ m ∈ d.makings config, m.Hygienic := by
    constructor
    · intro hg m hm
      refine Making.hygienic_iff.mpr fun name hname => ?_
      obtain ⟨t, ht, heq⟩ := (exists_type_iff h name).mpr ⟨m, hm, hname⟩
      exact hg t ht name heq
    · intro hmakings t ht name heq
      obtain ⟨m, hm, hname⟩ := (exists_type_iff h name).mp ⟨t, ht, heq⟩
      exact Making.hygienic_iff.mp (hmakings m hm) name hname
  refine ⟨hiff, fun hd => hiff.mpr fun m hm => Making.hygienic_iff.mpr fun name hname => ?_⟩
  exact hd.notMem (derives_of_mem_names (expected_makings config d m hm) hname)

/-! Documents with schemas that have names of the units. -/

def usersAnd (keys : List String) : Document where
  openapi := "3.0.0"
  info := { title := "Test", version := "1.0" }
  schemas := keys.map (·, .objectWith "code") ++ [("User", .objectWith "name")]

/-- What stands in the document with addresses: two objects with a text each. -/
theorem stands_usersAnd_address {key : String} {s : Schema}
    (h : (usersAnd ["Address"]).Stands key s) :
    key ∈ ["Address", "User", "code", "name"] ∧
      (s = .objectWith "code" ∨ s = .objectWith "name" ∨
        s = .node {} (.primitive "string" none)) := by
  induction h with
  | component h =>
    rcases List.mem_cons.mp h with h | h
    · cases h
      exact ⟨by decide, .inl rfl⟩
    · cases List.mem_singleton.mp h
      exact ⟨by decide, .inr (.inl rfl)⟩
  | parameter he => cases he
  | request he => cases he
  | response he => cases he
  | property _ ht ih =>
    obtain ⟨_, rfl | rfl | rfl⟩ := ih
    · cases List.mem_singleton.mp ht
      exact ⟨by decide, .inr (.inr rfl)⟩
    · cases List.mem_singleton.mp ht
      exact ⟨by decide, .inr (.inr rfl)⟩
    · cases ht
  | items _ ih => obtain ⟨_, h | h | h⟩ := ih <;> cases h
  | alternative _ _ _ ih => obtain ⟨_, h | h | h⟩ := ih <;> cases h

theorem hygienic_usersAnd_address : (usersAnd ["Address"]).Hygienic where
  keys key s h := by
    have hnames : ∀ key ∈ ["Address", "User", "code", "name"],
        Name.className key ∉ bareNames := by decide
    exact hnames key (stands_usersAnd_address h).1
  titles owner notes variants h := by
    obtain ⟨_, h | h | h⟩ := stands_usersAnd_address h <;> cases h

theorem usersAnd_address_hygienic : ∃ g, (usersAnd ["Address"]).generate .unchecked = .ok g ∧
    g.Hygienic :=
  ⟨_, generate_eq_ok_iff.mpr ⟨rfl, rfl⟩,
    (generated_hygienic_iff (generate_eq_ok_iff.mpr ⟨rfl, rfl⟩)).2 hygienic_usersAnd_address⟩

/-- The name of a user is an optional text, but a type has the name of the optional values; another
has that of the error which all methods share. -/
theorem usersAnd_option_confused : ∃ g,
    (usersAnd ["Option", "ApiError"]).generate .unchecked = .ok g ∧
      g.types.filterMap (·.name?) = ["Option", "ApiError", "User"] ∧
      "Option<String>" ∈ g.types.flatMap (·.fields.map Field.expression) ∧ ¬ g.Hygienic := by
  have hnames : (ModelType.boxAll
      ((usersAnd ["Option", "ApiError"]).modelRun .unchecked).types).filterMap (·.name?) =
        ["Option", "ApiError", "User"] := by
    decide +kernel
  refine ⟨_, generate_eq_ok_iff.mpr ⟨rfl, rfl⟩, hnames, by decide +kernel, fun h => ?_⟩
  obtain ⟨t, ht, hname⟩ := List.mem_filterMap.mp (hnames ▸ List.mem_cons_self)
  exact h t ht "Option" hname (by decide)

end Document

end ApiForge
