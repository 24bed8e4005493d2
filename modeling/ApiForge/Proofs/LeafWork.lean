import ApiForge.Proofs.Made
import ApiForge.Proofs.TypeIdentity
import Mathlib.Logic.Function.Iterate

/-!
What the type of a property is and what work it leaves. The type is that of the schema inside the
lists, with as many lists around it. A schema that gets a type of its own is put down as one piece
of work, and the type refers to it by the name that the work will get, although the name is derived
here from the key of the property and there from the key of the work, which for the items of a list
is a derived name itself. Main statement: `property_leaf`.
-/

namespace ApiForge

/-- How many lists a schema is, one inside the other, and the schema inside the innermost one, if
that says what its items are. -/
def Schema.insideLists : Schema → Nat × Option Schema
  | .node _ (.array (some items)) => (items.insideLists.1 + 1, items.insideLists.2)
  | .node _ (.array none) => (1, none)
  | s => (0, some s)

theorem Schema.insideLists_of_isInlineObject {s : Schema} (h : s.isInlineObject = true) :
    s.insideLists = (0, some s) := by
  obtain ⟨notes, shape⟩ := s
  cases shape with
  | object properties required => simp [insideLists]
  | _ => cases h

def Discovered.one : WorkItem → Discovered
  | .schema p => { pending := [p] }
  | .union g => { unions := [g] }

/-- Whether a piece of work is about a schema: the schema itself, or the alternatives of a union. -/
def WorkItem.IsAbout : WorkItem → Schema → Prop
  | .schema p, s => p.schema = s
  | .union g, s => s.shape = .oneOf g.variants

namespace Resolving

/-- What a resolver is asked for when a piece of work is done. -/
def workName : WorkItem → Resolving String
  | .schema p => className p.key
  | .union g => unionName g.owner

/-- A piece of work has a name: every resolver answers it, and in every run in which types are made
from the work, the name was free, is taken then, and the first of the types bears it. -/
structure NamedAs (item : WorkItem) (name : String) : Prop where
  answered : ∀ names, Reached names → ∀ found,
    ((workName item).after ⟨names, found⟩).1 = .ok name
  made : ∀ config namespaceName (run : ModelRun),
    (run.perform config namespaceName item).types = run.types ∨
      run.registry.contains name = false ∧
      (run.perform config namespaceName item).registry.contains name = true ∧
      ∃ type more, (run.perform config namespaceName item).types = run.types ++ type :: more ∧
        type.name? = some name

/-- What stands inside the lists of a type, and the work that is put down with it. -/
inductive LeafOf (inner : Option Schema) : ModelType → Discovered → Prop
  | primitive (p : Primitive) : LeafOf inner (.primitive p) {}
  | pointer {notes : Annotations} {target : String}
      (points : inner = some (.node notes (.reference target))) :
      LeafOf inner (.reference (Name.className target)) {}
  | work {item : WorkItem} {name : String} {s : Schema} (named : NamedAs item name)
      (found : inner = some s) (about : item.IsAbout s) :
      LeafOf inner (.reference name) (.one item)

theorem result_className {names : Name.ClassNames} (hnames : Reached names) (key : String)
    (found : Discovered) :
    ((className key).after ⟨names, found⟩).1 = .ok (Name.className key) :=
  congrArg Except.ok (Name.ClassNames.nameOf_of_faithful hnames.faithful key).1

theorem namedAs_schema (key : String) (schema : Schema) :
    NamedAs (.schema ⟨key, schema⟩) (Name.className key) where
  answered _ hnames found := result_className hnames key found
  made config namespaceName run := by
    rw [ModelRun.perform]
    rcases ModelRun.generateNamed_cases config namespaceName run key schema schema with
      ⟨_, heq⟩ | ⟨hfree, ⟨p, _, heq⟩ | ⟨type, code, found, hmake, heq⟩⟩
    · exact .inl (by rw [heq])
    · exact .inl (by rw [heq]; rfl)
    · right
      rw [heq]
      refine ⟨hfree, ?_, type, [], rfl, (ModelRun.of_makeNamed hmake).name_eq⟩
      exact Registry.contains_iff.mpr (Registry.mem_claim.mpr (.inr rfl))

theorem namedAs_union (owner : String) (variants : List Schema) :
    NamedAs (.union ⟨owner, variants⟩) (Name.unionName owner) where
  answered names hnames found := by
    have hname := result_className hnames owner found
    rw [workName, unionName, after_bind]
    rcases hafter : (className owner).after ⟨names, found⟩ with ⟨r, t⟩
    rw [hafter] at hname
    obtain rfl : r = .ok (Name.className owner) := hname
    rfl
  made config namespaceName run := by
    rw [ModelRun.perform, ModelRun.generateUnion]
    rcases hmake : ModelRun.makeUnion config namespaceName run.registry ⟨owner, variants⟩ with
      p | (_ | ⟨u, found⟩)
    · exact .inl rfl
    · exact .inl rfl
    · right
      obtain ⟨hfree, vs, rfl, -⟩ := ModelRun.of_makeUnion hmake
      refine ⟨hfree, ?_, _, _, rfl, rfl⟩
      exact Registry.contains_iff.mpr
        ((Registry.mem_foldl_claim _ _).mpr (.inl (Registry.mem_claim.mpr (.inr rfl))))

/-- A type is that of the schema inside the lists, with as many lists around it. -/
def IsListed (s : Schema) (type : ModelType) (added : Discovered) : Prop :=
  ∃ leaf, type = ModelType.array^[s.insideLists.1] leaf ∧ LeafOf s.insideLists.2 leaf added

theorem IsListed.of_leaf {s : Schema} {leaf : ModelType} {added : Discovered}
    (hs : s.insideLists = (0, some s)) (h : LeafOf (some s) leaf added) :
    IsListed s leaf added := by
  rw [IsListed, hs]
  exact ⟨leaf, rfl, h⟩

theorem IsListed.listOf {notes : Annotations} {items : Schema} {type : ModelType}
    {added : Discovered} (h : IsListed items type added) :
    IsListed (.node notes (.array (some items))) (.array type) added := by
  obtain ⟨leaf, rfl, hleaf⟩ := h
  rw [IsListed, Schema.insideLists]
  exact ⟨leaf, (Function.iterate_succ_apply' _ _ _).symm, hleaf⟩

theorem TypeOf.isListed {key : String} {s : Schema} {t : ModelType} {d : Discovered}
    (h : TypeOf key s t d) : IsListed s t d := by
  induction h with
  | pointer => exact .of_leaf (by simp [Schema.insideLists]) (.pointer rfl)
  | enumeration =>
    exact .of_leaf (by simp [Schema.insideLists]) (.work (namedAs_schema key _) rfl rfl)
  | oneOf => exact .of_leaf (by simp [Schema.insideLists]) (.work (namedAs_union key _) rfl rfl)
  | object => exact .of_leaf (by simp [Schema.insideLists]) (.work (namedAs_schema key _) rfl rfl)
  | emptyObject => exact .of_leaf (by simp [Schema.insideLists]) (.primitive _)
  | untyped => exact .of_leaf (by simp [Schema.insideLists]) (.primitive _)
  | primitive => exact .of_leaf (by simp [Schema.insideLists]) (.primitive _)
  | list => exact ⟨.primitive .untyped, by simp [Schema.insideLists], .primitive _⟩
  | listOf _ _ ih => exact ih.listOf
  | @listOfObjects notes items inline =>
    refine IsListed.listOf (.of_leaf (Schema.insideLists_of_isInlineObject inline) ?_)
    -- The key of the work is a derived name, which is derived once more when the work is done.
    have hnamed := namedAs_schema (Name.className key ++ itemSuffix) items
    rw [className_itemSuffix] at hnamed
    exact .work hnamed rfl rfl

/-- The type of a property and the work that is put down for it correspond, whatever was asked of
the resolver before and whatever work was found: the type is a leaf with the lists of the schema
around it, and the leaf is a primitive type or the name of a pointer, and then no work was added; or
one piece of work was, about the schema inside the lists, and the leaf refers to it by the name that
the work gets when it is done. -/
theorem property_leaf {names : Name.ClassNames} (h : Reached names) {key : String} {schema : Schema}
    {found : Discovered} {type : ModelType} {s : Scope}
    (hproperty : (property key schema).after ⟨names, found⟩ = (.ok type, s)) :
    ∃ leaf added, type = ModelType.array^[schema.insideLists.1] leaf ∧ s.found = found ++ added ∧
      LeafOf schema.insideLists.2 leaf added := by
  obtain ⟨-, hresult⟩ := gives_typeOf key schema ⟨names, found⟩ h.faithful
  rw [hproperty] at hresult
  obtain ⟨added, hfound, htype⟩ := hresult type rfl
  obtain ⟨leaf, hlists, hleaf⟩ := htype.isListed
  exact ⟨leaf, added, hlists, hfound, hleaf⟩

/-- A list of objects. The name of its items is derived from a key whose capital is two letters. -/
def sharpList : Schema :=
  .node {} (.array (some (.node {} (.object [("a", .node {} .untyped)] []))))

theorem sharpList_leaf :
    ∃ names, Reached names ∧ names.size = 1 ∧ ∃ s leaf added,
      (property "ß" sharpList).after ⟨names, {}⟩ = (.ok (.array (.reference "SSItem")), s) ∧
      ModelType.array (.reference "SSItem") = ModelType.array^[1] leaf ∧ s.found = {} ++ added ∧
      LeafOf (some (.node {} (.object [("a", .node {} .untyped)] []))) leaf added := by
  have hname : Name.className "ß" = "SS" := by decide
  have hreached := Reached.new.call (.className "ß") {}
  have hproperty : ∃ s, (property "ß" sharpList).after
      ⟨((className "ß").after ⟨{}, {}⟩).2.names, {}⟩ =
        (.ok (.array (.reference (Name.className "ß" ++ itemSuffix))), s) := ⟨_, rfl⟩
  obtain ⟨s, hproperty⟩ := hproperty
  obtain ⟨leaf, added, hleaf⟩ := property_leaf hreached hproperty
  rw [hname] at hproperty hleaf
  exact ⟨_, hreached, rfl, s, leaf, added, hproperty, hleaf⟩

end Resolving

end ApiForge
