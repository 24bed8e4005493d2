import ApiForge.Model.Resolution
import ApiForge.Union.Derivation

/-!
How much work a resolution finds. `Finds m n` says that `m` only adds to the work found before it,
and adds at most `n` schemas. Main statements: a property finds at most the schemas that it
consists of, a record fewer than it consists of, and a union those inside its alternatives. This is
why a run ends.
-/

namespace ApiForge

namespace Schema

theorem nodeCount_pos (s : Schema) : 0 < s.nodeCount := by
  cases s
  simp [nodeCount]

@[simp] theorem countAll_nil : countAll [] = 0 := rfl

@[simp] theorem countAll_cons (s : Schema) (rest : List Schema) :
    countAll (s :: rest) = s.nodeCount + countAll rest := rfl

theorem length_le_countAll (l : List Schema) : l.length ≤ countAll l := by
  induction l with
  | nil => simp
  | cons s rest ih =>
    have hpos := s.nodeCount_pos
    rw [List.length_cons, countAll_cons]
    omega

theorem countAll_append (a b : List Schema) : countAll (a ++ b) = countAll a + countAll b := by
  induction a with
  | nil => simp
  | cons s rest ih => rw [List.cons_append, countAll_cons, countAll_cons, ih, Nat.add_assoc]

end Schema

namespace Discovered

theorem append_empty (d : Discovered) : d ++ ({} : Discovered) = d := by
  show append d {} = d
  simp [append]

theorem append_assoc (a b c : Discovered) : a ++ b ++ c = a ++ (b ++ c) := by
  show append (append a b) c = append a (append b c)
  simp [append]

@[simp] theorem nodeCount_empty : ({} : Discovered).nodeCount = 0 := rfl

@[simp] theorem nodeCount_append (a b : Discovered) :
    (a ++ b).nodeCount = a.nodeCount + b.nodeCount := by
  show (append a b).nodeCount = _
  simp only [nodeCount, append, List.map_append, List.flatMap_append, List.length_append,
    Schema.countAll_append]
  omega

end Discovered

namespace Resolving

variable {α β : Type}

/-- Where a resolution leads from a scope. -/
def after (m : Resolving α) (s : Scope) : Except Problem α × Scope := m.run.run s

theorem after_bind (m : Resolving α) (f : α → Resolving β) (s : Scope) :
    (m >>= f).after s =
      match m.after s with
      | (.ok a, t) => (f a).after t
      | (.error p, t) => (.error p, t) := by
  show (ExceptT.bind m f).run s = _
  simp only [after, ExceptT.bind, ExceptT.mk, ExceptT.run]
  show StateT.run (StateT.bind m (ExceptT.bindCont f)) s = _
  simp only [StateT.bind, StateT.run]
  rcases m s with ⟨r, t⟩
  cases r <;> rfl

/-- A resolution adds at most some number of schemas to the work. -/
def Finds (m : Resolving α) (n : Nat) : Prop :=
  ∀ s, ∃ d : Discovered, (m.after s).2.found = s.found ++ d ∧ d.nodeCount ≤ n

namespace Finds

theorem mono {m : Resolving α} {k n : Nat} (h : Finds m k) (hkn : k ≤ n) : Finds m n :=
  fun s => (h s).imp fun _ hd => ⟨hd.1, Nat.le_trans hd.2 hkn⟩

theorem of_unchanged {m : Resolving α} (h : ∀ s, (m.after s).2.found = s.found) : Finds m 0 :=
  fun s => ⟨{}, by rw [h, Discovered.append_empty], by simp⟩

theorem pure (a : α) : Finds (Pure.pure a) 0 := of_unchanged fun _ => rfl

theorem lift (e : Except Problem α) : Finds (Resolving.lift e) 0 := of_unchanged fun _ => rfl

theorem className (key : String) : Finds (Resolving.className key) 0 := of_unchanged fun _ => rfl

theorem enqueue (key : String) (schema : Schema) :
    Finds (Resolving.enqueue key schema) schema.nodeCount :=
  fun _ => ⟨{ pending := [⟨key, schema⟩] }, rfl, by simp [Discovered.nodeCount]⟩

theorem bind {m : Resolving α} {f : α → Resolving β} {a b : Nat} (hm : Finds m a)
    (hf : ∀ x, Finds (f x) b) : Finds (m >>= f) (a + b) := by
  intro s
  obtain ⟨d, hd, hle⟩ := hm s
  rw [after_bind]
  generalize hr : m.after s = r at hd ⊢
  obtain ⟨r, t⟩ := r
  cases r with
  | error p => exact ⟨d, hd, by omega⟩
  | ok x =>
    obtain ⟨e, he, hle'⟩ := hf x t
    refine ⟨d ++ e, ?_, by simp only [Discovered.nodeCount_append]; omega⟩
    rw [he, hd, Discovered.append_assoc]

theorem bind_left {m : Resolving α} {f : α → Resolving β} {n : Nat} (hm : Finds m n)
    (hf : ∀ x, Finds (f x) 0) : Finds (m >>= f) n := by
  simpa using bind hm hf

theorem bind_right {m : Resolving α} {f : α → Resolving β} {n : Nat} (hm : Finds m 0)
    (hf : ∀ x, Finds (f x) n) : Finds (m >>= f) n := by
  simpa using bind hm hf

theorem unionName (owner : String) : Finds (Resolving.unionName owner) 0 :=
  bind_left (className owner) fun _ => pure _

theorem enqueueUnion (owner : String) (variants : List Schema) :
    Finds (Resolving.enqueueUnion owner variants) (Schema.countAll variants + 1) := by
  refine bind_left (fun _ => ⟨{ unions := [⟨owner, variants⟩] }, rfl, ?_⟩) fun _ => unionName owner
  simp [Discovered.nodeCount]

end Finds

/-- Items that are no object are resolved as a property is. -/
theorem itemsOf_eq_property {key : String} {notes : Annotations} {shape : Shape Schema}
    (h : ∀ properties required, shape ≠ .object properties required) :
    itemsOf key (.node notes shape) = property key (.node notes shape) := by
  rw [property, itemsOf]
  exact h

/-- Induction along resolution, for a statement about properties and one about the items of lists.
Resolution looks into a schema only for the items of a list. -/
theorem schema_induction {P Q : Schema → Prop}
    (reference : ∀ notes target, P (.node notes (.reference target)))
    (enumeration : ∀ notes values, P (.node notes (.enumeration values)))
    (oneOf : ∀ notes variants, P (.node notes (.oneOf variants)))
    (list : ∀ notes, P (.node notes (.array none)))
    (listOf : ∀ notes items, Q items → P (.node notes (.array (some items))))
    (object : ∀ notes properties required, P (.node notes (.object properties required)))
    (untyped : ∀ notes, P (.node notes .untyped))
    (primitive : ∀ notes kind format, P (.node notes (.primitive kind format)))
    (objectItem : ∀ notes properties required, Q (.node notes (.object properties required)))
    (item : ∀ notes shape, (∀ properties required, shape ≠ .object properties required) →
      P (.node notes shape) → Q (.node notes shape)) :
    ∀ s, P s ∧ Q s
  | .node notes (.reference target) =>
    have h := reference notes target
    ⟨h, item notes _ nofun h⟩
  | .node notes (.enumeration values) =>
    have h := enumeration notes values
    ⟨h, item notes _ nofun h⟩
  | .node notes (.oneOf variants) =>
    have h := oneOf notes variants
    ⟨h, item notes _ nofun h⟩
  | .node notes (.array none) =>
    have h := list notes
    ⟨h, item notes _ nofun h⟩
  | .node notes (.array (some items)) =>
    have h := listOf notes items (schema_induction reference enumeration oneOf list listOf object
      untyped primitive objectItem item items).2
    ⟨h, item notes _ nofun h⟩
  | .node notes (.object properties required) =>
    ⟨object notes properties required, objectItem notes properties required⟩
  | .node notes .untyped =>
    have h := untyped notes
    ⟨h, item notes _ nofun h⟩
  | .node notes (.primitive kind format) =>
    have h := primitive notes kind format
    ⟨h, item notes _ nofun h⟩

/-- Resolving a property or the items of a list finds at most the schemas in it. -/
theorem finds_resolution (key : String) :
    ∀ s : Schema, Finds (property key s) s.nodeCount ∧ Finds (itemsOf key s) s.nodeCount := by
  apply schema_induction
  case reference =>
    intro notes target
    rw [property, propertyOfShape]
    exact (Finds.bind_left (Finds.className _) fun _ => Finds.pure _).mono (Nat.zero_le _)
  case enumeration =>
    intro notes values
    rw [property, propertyOfShape]
    exact Finds.bind_right (Finds.className _) fun _ =>
      Finds.bind_left (Finds.enqueue _ _) fun _ => Finds.pure _
  case oneOf =>
    intro notes variants
    rw [property, propertyOfShape]
    exact Finds.bind_left (Finds.enqueueUnion _ _) fun _ => Finds.pure _
  case list =>
    intro notes
    rw [property, propertyOfShape]
    exact (Finds.pure _).mono (Nat.zero_le _)
  case listOf =>
    intro notes items hitems
    rw [property, propertyOfShape, Schema.nodeCount, Schema.countShape]
    exact (Finds.bind_left hitems fun _ => Finds.pure _).mono (Nat.le_add_right _ 1)
  case object =>
    intro notes properties required
    rw [property, propertyOfShape]
    split
    · exact (Finds.pure _).mono (Nat.zero_le _)
    · exact Finds.bind_right (Finds.className _) fun _ =>
        Finds.bind_left (Finds.enqueue _ _) fun _ => Finds.pure _
  case untyped =>
    intro notes
    rw [property, propertyOfShape]
    exact (Finds.pure _).mono (Nat.zero_le _)
  case primitive =>
    intro notes kind format
    rw [property, propertyOfShape]
    exact (Finds.bind_left (Finds.lift _) fun _ => Finds.pure _).mono (Nat.zero_le _)
  case objectItem =>
    intro notes properties required
    rw [itemsOf]
    split
    · exact (Finds.pure _).mono (Nat.zero_le _)
    · exact Finds.bind_right (Finds.className _) fun _ =>
        Finds.bind_left (Finds.enqueue _ _) fun _ => Finds.pure _
  case item =>
    intro notes shape hshape h
    rwa [itemsOf_eq_property hshape]

theorem finds_property (key : String) (s : Schema) : Finds (property key s) s.nodeCount :=
  (finds_resolution key s).1

theorem finds_fieldsFrom (owner : String) (required : List String) (used : List String)
    (properties : List (String × Schema)) :
    Finds (fieldsFrom owner required used properties) (Schema.countProperties properties) := by
  induction properties generalizing used with
  | nil => exact Finds.pure _
  | cons p rest ih =>
    obtain ⟨wire, schema⟩ := p
    simp only [fieldsFrom, Schema.countProperties]
    exact Finds.bind (finds_property wire schema) fun _ =>
      Finds.bind_left (ih _) fun _ => Finds.pure _

theorem finds_fields (owner : String) (schema : Schema) :
    Finds (fields owner schema) (schema.nodeCount - 1) := by
  obtain ⟨notes, shape⟩ := schema
  simp only [fields, Schema.shape, Schema.nodeCount, Nat.add_sub_cancel]
  split
  · exact finds_fieldsFrom _ _ _ _
  · exact (Finds.pure _).mono (Nat.zero_le _)

theorem finds_record (name : String) (schema : Schema) (namespaceName : String) :
    Finds (record name schema namespaceName) (schema.nodeCount - 1) :=
  Finds.bind_left (finds_fields name schema) fun _ => Finds.pure _

theorem finds_variantsFrom (owner baseName namespaceName : String) (index : Nat)
    (schemas : List Schema) :
    Finds (DerivedUnion.variantsFrom owner baseName namespaceName index schemas)
      (Schema.countAll schemas - schemas.length) := by
  induction schemas generalizing index with
  | nil => exact Finds.pure _
  | cons schema rest ih =>
    have hpos := schema.nodeCount_pos
    have hrest := Schema.length_le_countAll rest
    rw [DerivedUnion.variantsFrom]
    refine (Finds.bind_right (Finds.lift _) fun _ => Finds.bind (finds_fields _ schema) fun _ =>
      Finds.bind_left (ih _) fun _ => Finds.pure _).mono ?_
    rw [Schema.countAll_cons, List.length_cons]
    omega

theorem finds_derive (registry : Registry) (group : UnionGroup) (namespaceName : String) :
    Finds (DerivedUnion.derive registry group namespaceName)
      (Schema.countAll group.variants - group.variants.length) := by
  refine Finds.bind_right (Finds.unionName _) fun _ => ?_
  split
  · exact (Finds.pure _).mono (Nat.zero_le _)
  · exact Finds.bind_left (finds_variantsFrom _ _ _ _ _) fun _ => Finds.pure _

/-- The work found by a resolution on its own is within its bound. -/
theorem nodeCount_le_of_outcome {m : Resolving α} {n : Nat} (h : Finds m n) {a : α}
    {d : Discovered} (ho : m.outcome = .ok (a, d)) : d.nodeCount ≤ n := by
  obtain ⟨e, he, hle⟩ := h { names := {} }
  simp only [outcome, start] at ho
  change (match m.after { names := {} } with
    | (.ok a, s) => ((.ok (a, s.found) : Except Problem (α × Discovered)), s.names)
    | (.error p, s) => (.error p, s.names)).1 = _ at ho
  generalize m.after { names := {} } = r at ho he
  obtain ⟨r, t⟩ := r
  cases r with
  | error p => simp at ho
  | ok x =>
    simp only [Except.ok.injEq, Prod.mk.injEq] at ho
    have : d = e := by
      rw [← ho.2, he]
      show Discovered.append _ _ = _
      simp [Discovered.append]
    rw [this]
    exact hle

end Resolving

end ApiForge
