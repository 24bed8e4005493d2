import ApiForge.Model.Finding

/-!
What resolutions come to. `Returns m P` says that every result of `m` has the property `P`, whatever
was found and named before; `Gives m P` says the same of a result together with the work that `m`
adds, from a table of names that answers what the derivation of a name would. A problem is no
result. Main statement: what a property comes to, by the shape of its schema (`gives_typeOf`).
-/

namespace ApiForge

theorem bind_eq_ok {ε α β : Type} {m : Except ε α} {f : α → Except ε β} {b : β}
    (h : m >>= f = .ok b) : ∃ a, m = .ok a ∧ f a = .ok b := by
  cases m with
  | error p => cases h
  | ok a => exact ⟨a, rfl, h⟩

/-- The names that types of some work are to be made under. -/
def Discovered.names (d : Discovered) : List String :=
  d.pending.map (Name.className ·.key) ++ d.unions.map (Name.unionName ·.owner)

@[simp] theorem Discovered.names_empty : ({} : Discovered).names = [] := rfl

@[simp] theorem Discovered.names_schema (key : String) (schema : Schema) :
    ({ pending := [⟨key, schema⟩] } : Discovered).names = [Name.className key] := rfl

@[simp] theorem Discovered.names_union (owner : String) (variants : List Schema) :
    ({ unions := [⟨owner, variants⟩] } : Discovered).names = [Name.unionName owner] := rfl

@[simp] theorem Discovered.mem_names_append {d e : Discovered} {name : String} :
    name ∈ (d ++ e).names ↔ name ∈ d.names ∨ name ∈ e.names := by
  change name ∈ (d.append e).names ↔ _
  simp only [names, append, List.map_append, List.mem_append]
  exact or_or_or_comm

/-- Every entry of a table is what the derivation of a name answers. -/
def Name.ClassNames.Faithful (t : ClassNames) : Prop := ∀ p ∈ t.entries, p.2 = className p.1

theorem Name.ClassNames.nameOf_of_faithful {t : ClassNames} (h : t.Faithful) (key : String) :
    (t.nameOf key).1 = className key ∧ (t.nameOf key).2.Faithful := by
  rw [nameOf]
  split
  · next hkey =>
    have hempty : key = "" := by simpa using hkey
    subst hempty
    exact ⟨rfl, h⟩
  · split
    · next name hname =>
      obtain ⟨before, after, heq, _⟩ := List.lookup_eq_some_iff.mp hname
      have hmem : (key, name) ∈ t.entries := by
        rw [heq]
        simp
      exact ⟨h _ hmem, h⟩
    · refine ⟨rfl, ?_⟩
      intro p hp
      rcases List.mem_cons.mp hp with rfl | hp
      · rfl
      · exact h p hp

namespace Resolving

variable {α β : Type}

/-- Every result of a resolution has a property. -/
def Returns (m : Resolving α) (P : α → Prop) : Prop :=
  ∀ s a, (m.after s).1 = .ok a → P a

theorem Returns.pure {P : α → Prop} {a : α} (h : P a) : Returns (Pure.pure a) P := by
  intro s b hb
  cases hb
  exact h

theorem Returns.mono {m : Resolving α} {P Q : α → Prop} (hm : Returns m P) (h : ∀ a, P a → Q a) :
    Returns m Q := fun s a ha => h a (hm s a ha)

/-- Whatever comes first, the results are those of what comes last. -/
theorem Returns.bind {m : Resolving α} {f : α → Resolving β} {P : β → Prop}
    (h : ∀ a, Returns (f a) P) : Returns (m >>= f) P := by
  intro s b hb
  rw [after_bind] at hb
  rcases hm : m.after s with ⟨r, t⟩
  rw [hm] at hb
  cases r with
  | ok a => exact h a t b hb
  | error p => cases hb

/-- What the results of what comes first have helps with those of what comes last. -/
theorem Returns.andThen {m : Resolving α} {f : α → Resolving β} {P : α → Prop} {Q : β → Prop}
    (hm : Returns m P) (hf : ∀ a, P a → Returns (f a) Q) : Returns (m >>= f) Q := by
  intro s b hb
  have hresult := hm s
  rw [after_bind] at hb
  rcases hr : m.after s with ⟨r, t⟩
  rw [hr] at hb hresult
  cases r with
  | ok a => exact hf a (hresult a rfl) t b hb
  | error p => cases hb

theorem outcome_eq (m : Resolving α) :
    m.outcome = match m.after {} with
      | (.ok a, s) => .ok (a, s.found)
      | (.error p, _) => .error p := by
  simp only [outcome, start]
  change (match m.after {} with
    | (.ok a, s) => ((.ok (a, s.found) : Except Problem (α × Discovered)), s.names)
    | (.error p, s) => (.error p, s.names)).1 = _
  rcases m.after {} with ⟨r, t⟩
  cases r <;> rfl

theorem Returns.of_outcome {m : Resolving α} {P : α → Prop} (h : Returns m P) {a : α}
    {d : Discovered} (ho : m.outcome = .ok (a, d)) : P a := by
  rw [outcome_eq] at ho
  rcases hm : m.after {} with ⟨r, t⟩
  rw [hm] at ho
  cases r with
  | ok b =>
    cases ho
    exact h {} a (by rw [hm])
  | error p => cases ho

/-- Every result of a resolution, together with the work that it adds, has a property. -/
def Gives (m : Resolving α) (P : α → Discovered → Prop) : Prop :=
  ∀ s, s.names.Faithful → (m.after s).2.names.Faithful ∧
    ∀ a, (m.after s).1 = .ok a → ∃ d, (m.after s).2.found = s.found ++ d ∧ P a d

namespace Gives

variable {P : α → Discovered → Prop} {Q : β → Discovered → Prop}

theorem pure {a : α} (h : P a {}) : Gives (Pure.pure a) P := by
  intro s hs
  refine ⟨hs, fun b hb => ⟨{}, (Discovered.append_empty s.found).symm, ?_⟩⟩
  cases hb
  exact h

theorem mono {P' : α → Discovered → Prop} {m : Resolving α} (hm : Gives m P)
    (h : ∀ a d, P a d → P' a d) : Gives m P' := by
  intro s hs
  obtain ⟨hnames, hresult⟩ := hm s hs
  refine ⟨hnames, fun a ha => ?_⟩
  obtain ⟨d, hd, hP⟩ := hresult a ha
  exact ⟨d, hd, h a d hP⟩

theorem bind {m : Resolving α} {f : α → Resolving β} (hm : Gives m P)
    (hf : ∀ a, Gives (f a) fun b e => ∀ d, P a d → Q b (d ++ e)) : Gives (m >>= f) Q := by
  intro s hs
  obtain ⟨hnames, hresult⟩ := hm s hs
  rw [after_bind]
  rcases hr : m.after s with ⟨_ | a, t⟩
  · rw [hr] at hnames
    exact ⟨hnames, nofun⟩
  · rw [hr] at hnames hresult
    obtain ⟨d, hd, hP⟩ := hresult a rfl
    obtain ⟨hnames', hresult'⟩ := hf a t hnames
    refine ⟨hnames', fun b hb => ?_⟩
    obtain ⟨e, he, hQ⟩ := hresult' b hb
    refine ⟨d ++ e, ?_, hQ d hP⟩
    rw [he, hd, Discovered.append_assoc]

theorem className (key : String) :
    Gives (Resolving.className key) fun name d => name = Name.className key ∧ d = {} := by
  intro s hs
  obtain ⟨hname, hnames⟩ := Name.ClassNames.nameOf_of_faithful hs key
  refine ⟨hnames, fun name h => ⟨{}, (Discovered.append_empty s.found).symm, ?_, rfl⟩⟩
  cases h
  exact hname

theorem unionName (owner : String) :
    Gives (Resolving.unionName owner) fun name d => name = Name.unionName owner ∧ d = {} := by
  refine (className owner).bind fun name => pure ?_
  rintro d ⟨rfl, rfl⟩
  exact ⟨rfl, rfl⟩

theorem enqueue (key : String) (schema : Schema) :
    Gives (Resolving.enqueue key schema) fun _ d => d = { pending := [⟨key, schema⟩] } :=
  fun _ hs => ⟨hs, fun _ _ => ⟨_, rfl, rfl⟩⟩

theorem enqueueUnion (owner : String) (variants : List Schema) :
    Gives (Resolving.enqueueUnion owner variants) fun name d =>
      name = Name.unionName owner ∧ d = { unions := [⟨owner, variants⟩] } := by
  have hqueue : Gives (modify fun s => { s with
      found := s.found ++ { unions := [⟨owner, variants⟩] } } : Resolving PUnit)
      fun _ d => d = { unions := [⟨owner, variants⟩] } :=
    fun _ hs => ⟨hs, fun _ _ => ⟨_, rfl, rfl⟩⟩
  refine hqueue.bind fun _ => (unionName owner).mono ?_
  rintro name e ⟨rfl, rfl⟩ d rfl
  exact ⟨rfl, Discovered.append_empty _⟩

theorem lift (e : Except Problem α) :
    Gives (Resolving.lift e) fun a d => e = .ok a ∧ d = {} :=
  fun s hs => ⟨hs, fun _ ha => ⟨{}, (Discovered.append_empty s.found).symm, ha, rfl⟩⟩

theorem of_outcome {m : Resolving α} (h : Gives m P) {a : α} {d : Discovered}
    (ho : m.outcome = .ok (a, d)) : P a d := by
  rw [outcome_eq] at ho
  obtain ⟨_, hresult⟩ := h {} nofun
  rcases hm : m.after {} with ⟨_ | b, t⟩
  · rw [hm] at ho
    cases ho
  · rw [hm] at ho hresult
    cases ho
    obtain ⟨e, he, hP⟩ := hresult a rfl
    have hde : t.found = e := by
      rw [he]
      rfl
    rwa [hde]

end Gives

/-- The type of a property with a key, and the work that is put down for it. A schema that gets a
type of its own is put down under the key that the type is named after; only the objects in a list
have a key that is a type name already. -/
inductive TypeOf (key : String) : Schema → ModelType → Discovered → Prop
  | pointer {notes : Annotations} {target : String} :
      TypeOf key (.node notes (.reference target)) (.reference (Name.className target)) {}
  | enumeration {notes : Annotations} {values : List Json} :
      TypeOf key (.node notes (.enumeration values)) (.reference (Name.className key))
        { pending := [⟨key, .node notes (.enumeration values)⟩] }
  | oneOf {notes : Annotations} {variants : List Schema} :
      TypeOf key (.node notes (.oneOf variants)) (.reference (Name.unionName key))
        { unions := [⟨key, variants⟩] }
  | object {notes : Annotations} {properties : List (String × Schema)} {required : List String}
      (inline : (Schema.node notes (.object properties required)).isInlineObject = true) :
      TypeOf key (.node notes (.object properties required)) (.reference (Name.className key))
        { pending := [⟨key, .node notes (.object properties required)⟩] }
  | emptyObject {notes : Annotations} {required : List String} :
      TypeOf key (.node notes (.object [] required)) (.primitive .untyped) {}
  | untyped {notes : Annotations} : TypeOf key (.node notes .untyped) (.primitive .untyped) {}
  | primitive {notes : Annotations} {kind : String} {format : Option String} {p : Primitive}
      (mapped : Primitive.ofKind kind format key = .ok p) :
      TypeOf key (.node notes (.primitive kind format)) (.primitive p) {}
  | list {notes : Annotations} :
      TypeOf key (.node notes (.array none)) (.array (.primitive .untyped)) {}
  | listOf {notes : Annotations} {items : Schema} {t : ModelType} {d : Discovered}
      (plain : items.isInlineObject = false) (item : TypeOf key items t d) :
      TypeOf key (.node notes (.array (some items))) (.array t) d
  | listOfObjects {notes : Annotations} {items : Schema} (inline : items.isInlineObject = true) :
      TypeOf key (.node notes (.array (some items)))
        (.array (.reference (Name.className key ++ itemSuffix)))
        { pending := [⟨Name.className key ++ itemSuffix, items⟩] }

/-- The items of a list are resolved as what the list needs them to be. -/
theorem gives_resolution (key : String) : ∀ s : Schema,
    Gives (property key s) (TypeOf key s) ∧ Gives (itemsOf key s) fun t d =>
      ∀ notes, TypeOf key (.node notes (.array (some s))) (.array t) d := by
  apply schema_induction
  case reference =>
    intro notes target
    rw [property, propertyOfShape]
    refine (Gives.className target).bind fun name => Gives.pure ?_
    rintro d ⟨rfl, rfl⟩
    exact .pointer
  case enumeration =>
    intro notes values
    rw [property, propertyOfShape]
    refine (Gives.className key).bind fun name => (Gives.enqueue key _).bind fun _ => Gives.pure ?_
    rintro e rfl d ⟨rfl, rfl⟩
    exact .enumeration
  case oneOf =>
    intro notes variants
    rw [property, propertyOfShape]
    refine (Gives.enqueueUnion key variants).bind fun name => Gives.pure ?_
    rintro d ⟨rfl, rfl⟩
    exact .oneOf
  case list =>
    intro notes
    rw [property, propertyOfShape]
    exact Gives.pure .list
  case listOf =>
    intro notes items hitems
    rw [property, propertyOfShape]
    refine hitems.bind fun t => Gives.pure ?_
    intro d hlist
    rw [Discovered.append_empty]
    exact hlist notes
  case object =>
    intro notes properties required
    rw [property, propertyOfShape]
    cases properties with
    | nil => exact Gives.pure .emptyObject
    | cons p rest =>
      refine (Gives.className key).bind fun name => (Gives.enqueue key _).bind fun _ =>
        Gives.pure ?_
      rintro e rfl d ⟨rfl, rfl⟩
      exact .object rfl
  case untyped =>
    intro notes
    rw [property, propertyOfShape]
    exact Gives.pure .untyped
  case primitive =>
    intro notes kind format
    rw [property, propertyOfShape]
    refine (Gives.lift _).bind fun p => Gives.pure ?_
    rintro d ⟨hmapped, rfl⟩
    exact .primitive hmapped
  case objectItem =>
    intro notes properties required
    rw [itemsOf]
    cases properties with
    | nil => exact Gives.pure fun _ => .listOf rfl .emptyObject
    | cons p rest =>
      refine (Gives.className key).bind fun name => (Gives.enqueue _ _).bind fun _ => Gives.pure ?_
      rintro e rfl d ⟨rfl, rfl⟩ _
      exact .listOfObjects rfl
  case item =>
    intro notes shape hshape h
    have hplain : (Schema.node notes shape).isInlineObject = false := by
      cases shape with
      | object properties required => exact absurd rfl (hshape properties required)
      | _ => rfl
    rw [itemsOf_eq_property hshape]
    exact h.mono fun _ _ htype _ => .listOf hplain htype

theorem gives_typeOf (key : String) (s : Schema) : Gives (property key s) (TypeOf key s) :=
  (gives_resolution key s).1

end Resolving

end ApiForge
