import ApiForge.Model.Run
import ApiForge.Proofs.ClassName
import ApiForge.Proofs.Resolution
import Mathlib.Data.List.Forall2

/-!
What the making of a type or a union comes to. The fields follow the properties of the schema one
by one, and a field that names a type made from a part of its property puts the name forward.
Main statements: one for types of schemas (`of_makeNamed`) and one for unions (`of_makeUnion`).
-/

namespace ApiForge

/-- Whether a schema is a pointer to another one, or a list of such. -/
def Schema.pointsOut : Schema → Bool
  | .node _ (.reference _) => true
  | .node _ (.array (some items)) => items.pointsOut
  | _ => false

/-- A field bears the name of its property, and unless the property points out, the names of types
in it are among some names. -/
def FieldOf (names : List String) (p : String × Schema) (f : ModelField) : Prop :=
  f.wireName = p.1 ∧ (p.2.pointsOut = false → ∀ n ∈ f.type.referencedNames, n ∈ names)

theorem FieldOf.mono {names more : List String} (hsub : ∀ n ∈ names, n ∈ more)
    {p : String × Schema} {f : ModelField} (h : FieldOf names p f) : FieldOf more p f :=
  ⟨h.1, fun hp n hn => hsub n (h.2 hp n hn)⟩

/-- A variant is named after its alternative and has the fields of its properties. -/
def VariantOf (owner baseName : String) (names : List String) (s : Schema) (v : Variant) : Prop :=
  v.name = DerivedUnion.variantName owner (s.notes.title.getD "") ∧ v.baseName = baseName ∧
    List.Forall₂ (FieldOf names) s.properties v.fields

theorem VariantOf.mono {owner baseName : String} {names more : List String}
    (hsub : ∀ n ∈ names, n ∈ more) {s : Schema} {v : Variant}
    (h : VariantOf owner baseName names s v) : VariantOf owner baseName more s v :=
  ⟨h.1, h.2.1, h.2.2.imp fun _ _ hf => hf.mono hsub⟩

namespace Resolving

theorem className_itemSuffix (key : String) :
    Name.className (Name.className key ++ itemSuffix) = Name.className key ++ itemSuffix :=
  Name.className_append key (by decide) ⟨Name.unmarked_of_all (by decide), by
    rintro c rest h hc
    obtain ⟨rfl, _⟩ := List.cons.inj h
    revert hc
    decide⟩

/-- The names in a type are put forward with it. -/
def PutsForward (t : ModelType) (d : Discovered) : Prop := ∀ n ∈ t.referencedNames, n ∈ d.names

theorem putsForward_of_named {name : String} {d : Discovered} (h : name ∈ d.names) :
    PutsForward (.reference name) d := by
  intro n hn
  rw [ModelType.referencedNames, List.mem_singleton] at hn
  rwa [hn]

theorem putsForward_primitive (p : Primitive) (d : Discovered) : PutsForward (.primitive p) d := by
  intro n hn
  simp [ModelType.referencedNames] at hn

/-- Unless a property points out, the names in its type are put forward with it. -/
theorem TypeOf.putsForward {key : String} {s : Schema} {t : ModelType} {d : Discovered}
    (h : TypeOf key s t d) (hpoints : s.pointsOut = false) : PutsForward t d := by
  induction h with
  | pointer => simp [Schema.pointsOut] at hpoints
  | enumeration => exact putsForward_of_named (by simp)
  | oneOf => exact putsForward_of_named (by simp)
  | object => exact putsForward_of_named (by simp)
  | emptyObject => exact putsForward_primitive _ _
  | untyped => exact putsForward_primitive _ _
  | primitive => exact putsForward_primitive _ _
  | list =>
    intro n hn
    exact putsForward_primitive .untyped _ n hn
  | listOf _ _ ih =>
    rw [Schema.pointsOut] at hpoints
    intro n hn
    exact ih hpoints n hn
  | listOfObjects =>
    intro n hn
    -- The work is put down under a name that is one already, and keeps it.
    exact putsForward_of_named (by simp [className_itemSuffix]) n hn

theorem gives_property (key : String) (s : Schema) :
    Gives (property key s) fun t d => s.pointsOut = false → PutsForward t d :=
  (gives_typeOf key s).mono fun _ _ h => h.putsForward

theorem mem_names_left {d e : Discovered} : ∀ n ∈ d.names, n ∈ (d ++ e).names :=
  fun _ hn => Discovered.mem_names_append.mpr (.inl hn)

theorem mem_names_right {d e : Discovered} : ∀ n ∈ e.names, n ∈ (d ++ e).names :=
  fun _ hn => Discovered.mem_names_append.mpr (.inr hn)

theorem gives_fieldsFrom (owner : String) (required used : List String)
    (properties : List (String × Schema)) :
    Gives (fieldsFrom owner required used properties) fun fs d =>
      List.Forall₂ (FieldOf d.names) properties fs := by
  induction properties generalizing used with
  | nil => exact Gives.pure .nil
  | cons p rest ih =>
    obtain ⟨wire, schema⟩ := p
    rw [fieldsFrom]
    refine (gives_property wire schema).bind fun type => (ih _).bind fun more => Gives.pure ?_
    intro e hmore d htype
    have hfield : FieldOf d.names (wire, schema) (fieldOf owner required used wire schema type) :=
      ⟨rfl, htype⟩
    refine .cons (hfield.mono mem_names_left) (hmore.imp fun _ _ hf => hf.mono ?_)
    intro n hn
    exact mem_names_right n (mem_names_left n hn)

theorem gives_fields (owner : String) (schema : Schema) :
    Gives (fields owner schema) fun fs d =>
      List.Forall₂ (FieldOf d.names) schema.properties fs := by
  rw [fields, Schema.properties]
  cases schema.shape with
  | object properties required => exact gives_fieldsFrom owner required [] properties
  | _ => exact Gives.pure .nil

theorem gives_record (name : String) (schema : Schema) (namespaceName : String) :
    Gives (record name schema namespaceName) fun r d =>
      r.name = name ∧ List.Forall₂ (FieldOf d.names) schema.properties r.fields := by
  refine (gives_fields name schema).bind fun fs => Gives.pure ?_
  intro d hfs
  exact ⟨rfl, hfs.imp fun _ _ hf => hf.mono mem_names_left⟩

theorem title_of_titleOf {owner title : String} {index : Nat} {s : Schema}
    (h : DerivedUnion.titleOf owner index s = .ok title) : s.notes.title.getD "" = title := by
  unfold DerivedUnion.titleOf at h
  split at h
  · next hsome =>
    split at h
    · cases h
    · cases h
      rw [hsome, Option.getD_some]
  · cases h

theorem gives_variantsFrom (owner baseName namespaceName : String) (index : Nat)
    (alternatives : List Schema) :
    Gives (DerivedUnion.variantsFrom owner baseName namespaceName index alternatives) fun vs d =>
      List.Forall₂ (VariantOf owner baseName d.names) alternatives vs := by
  induction alternatives generalizing index with
  | nil => exact Gives.pure .nil
  | cons s rest ih =>
    rw [DerivedUnion.variantsFrom]
    refine (Gives.lift _).bind fun title => ?_
    refine (gives_fields _ s).bind fun fs => (ih (index + 1)).bind fun more => Gives.pure ?_
    rintro e hmore d hfs f ⟨htitle, rfl⟩
    refine .cons ⟨by rw [title_of_titleOf htitle], rfl, hfs.imp fun _ _ hf => hf.mono ?_⟩
      (hmore.imp fun _ _ hv => hv.mono ?_)
    · exact fun n hn => mem_names_right n (mem_names_left n hn)
    · exact fun n hn => mem_names_right n (mem_names_right n (mem_names_left n hn))

/-- A union is derived only when its name is free. -/
theorem gives_derive (registry : Registry) (group : UnionGroup) (namespaceName : String) :
    Gives (DerivedUnion.derive registry group namespaceName) fun r d => ∀ u, r = some u →
      registry.contains (Name.unionName group.owner) = false ∧
        ∃ vs, u = DerivedUnion.ofVariants (Name.unionName group.owner) namespaceName vs ∧
          List.Forall₂ (VariantOf group.owner (Name.unionName group.owner) d.names)
            group.variants vs := by
  rw [DerivedUnion.derive]
  refine (Gives.unionName group.owner).bind fun name => ?_
  split
  · exact Gives.pure nofun
  · next hfree =>
    refine (gives_variantsFrom group.owner name namespaceName 0 group.variants).bind
      fun vs => Gives.pure ?_
    rintro d hvs e ⟨rfl, rfl⟩ u hu
    cases hu
    refine ⟨by simpa using hfree, vs, rfl, hvs.imp fun _ _ hv => hv.mono ?_⟩
    exact fun n hn => mem_names_right n (mem_names_left n hn)

end Resolving

namespace ModelRun

variable {config : Config} {namespaceName : String}

/-- What is made under a name: a record or an enumeration with its unit. -/
structure MadeAs (name : String) (body : Schema) (notes : Option String) (type : ModelType)
    (code : String) (names : List String) : Prop where
  name_eq : type.name? = some name
  unit_eq : Emit.typeUnit type notes = some code
  not_marker : ∀ m, type ≠ .marker m
  not_variant : ∀ v, type ≠ .variant v
  fields : List.Forall₂ (FieldOf names) body.properties type.fields

theorem of_makeNamed {name : String} {body : Schema} {notes : Option String} {type : ModelType}
    {code : String} {found : Discovered}
    (h : makeNamed config namespaceName name body notes = .ok (type, code, found)) :
    MadeAs name body notes type code found.names := by
  have hrender : (render namespaceName name body notes).Gives fun r d =>
      MadeAs name body notes r.1 r.2 d.names := by
    unfold render
    split
    · next hshape =>
      refine .pure ⟨rfl, rfl, nofun, nofun, ?_⟩
      rw [Schema.properties, hshape]
      exact .nil
    · refine (Resolving.gives_record name body namespaceName).bind fun r => .pure ?_
      rintro d ⟨hname, hfields⟩
      refine ⟨congrArg some hname, rfl, nofun, nofun, hfields.imp fun _ _ hf => hf.mono ?_⟩
      exact Resolving.mem_names_left
  obtain ⟨⟨⟨t, c⟩, d⟩, hout, h⟩ := bind_eq_ok h
  obtain ⟨_, _, h⟩ := bind_eq_ok h
  cases h
  exact hrender.of_outcome hout

theorem of_makeUnion {registry : Registry} {group : UnionGroup} {u : DerivedUnion}
    {found : Discovered}
    (h : makeUnion config namespaceName registry group = .ok (some (u, found))) :
    registry.contains (Name.unionName group.owner) = false ∧
      ∃ vs, u = DerivedUnion.ofVariants (Name.unionName group.owner) namespaceName
          (DerivedUnion.freeVariants registry.names vs) ∧
        List.Forall₂ (VariantOf group.owner (Name.unionName group.owner) found.names)
          group.variants vs := by
  obtain ⟨⟨r, d⟩, hout, h⟩ := bind_eq_ok h
  have hderive := (Resolving.gives_derive registry group namespaceName).of_outcome hout
  cases r with
  | none => cases h
  | some derived =>
    obtain ⟨_, _, h⟩ := bind_eq_ok h
    cases h
    obtain ⟨hfree, vs, rfl, hvs⟩ := hderive derived rfl
    exact ⟨hfree, vs, rfl, hvs⟩

end ModelRun

end ApiForge
