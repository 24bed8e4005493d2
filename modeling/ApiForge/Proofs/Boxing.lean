import ApiForge.Model.Cycle
import ApiForge.Proofs.Reachability
import Mathlib.Data.List.Forall2

/-!
Fields that are held through pointers. Main statements: a field is boxed exactly when it was boxed
before or a chain of by-value references leads from the type that it names back to its owner
(`boxedFrom_boxAll`); without markers inside of markers no chain of unboxed references leads back
to where it began (`acyclic_boxAll`); and boxing a second time changes nothing.
-/

namespace ApiForge

namespace Field

variable (g : ReferenceGraph) (owner : String) (f : ModelField)

def unboxed (f : ModelField) : ModelField := { f with boxed := false }

/-- Whether boxing puts a field behind a pointer. -/
def closesCycle : Bool :=
  match f.inlineTarget with
  | some target => g.closesCycle owner target
  | none => false

theorem box_eq : f.box g owner = { f with boxed := f.boxed || f.closesCycle g owner } := by
  rw [box, closesCycle]
  cases f.inlineTarget with
  | none => simp
  | some target =>
    dsimp only
    cases g.closesCycle owner target <;> simp

@[simp] theorem wireName_box : (f.box g owner).wireName = f.wireName := by rw [box_eq]

@[simp] theorem type_box : (f.box g owner).type = f.type := by rw [box_eq]

@[simp] theorem inlineTarget_box : (f.box g owner).inlineTarget = f.inlineTarget := by
  rw [inlineTarget, inlineTarget, type_box]

@[simp] theorem unboxed_box : (f.box g owner).unboxed = f.unboxed := by
  rw [box_eq]
  rfl

theorem boxed_box : (f.box g owner).boxed = (f.boxed || f.closesCycle g owner) := by rw [box_eq]

/-- Boxing a field again with the same graph changes nothing. -/
theorem box_box : (f.box g owner).box g owner = f.box g owner := by
  have htarget : (f.box g owner).closesCycle g owner = f.closesCycle g owner := by
    rw [closesCycle, inlineTarget_box, closesCycle]
  rw [box_eq g owner (f.box g owner), htarget, boxed_box, Bool.or_assoc, Bool.or_self, box_eq]

/-- With the graph of the types, boxing asks for a chain from the target back to the owner. -/
theorem closesCycle_ofTypes_iff {types : List ModelType} {owner : String} {f : ModelField} :
    f.closesCycle (ReferenceGraph.ofTypes types) owner = true ↔
      ∃ target, f.type = .reference target ∧ Relation.ReflTransGen (Holds types) target owner := by
  rw [closesCycle]
  cases htarget : f.inlineTarget with
  | none =>
    simp only [Bool.false_eq_true, false_iff, not_exists, not_and]
    intro target htype
    rw [inlineTarget_eq_some_iff.mpr htype] at htarget
    cases htarget
  | some target =>
    rw [inlineTarget_eq_some_iff] at htarget
    simp only [ReferenceGraph.closesCycle_ofTypes_iff, htarget, ModelType.reference.injEq,
      exists_eq_left']

end Field

namespace ModelType

variable (g : ReferenceGraph) (t : ModelType)

def isMarker : ModelType → Bool
  | marker _ => true
  | _ => false

def unboxed : ModelType → ModelType
  | record r => record { r with fields := r.fields.map Field.unboxed }
  | variant v => variant { v with fields := v.fields.map Field.unboxed }
  | t => t

@[simp] theorem name?_box : (t.box g).name? = t.name? := by cases t <;> rfl

@[simp] theorem isMarker_box : (t.box g).isMarker = t.isMarker := by cases t <;> rfl

theorem name?_of_mem_fields {t : ModelType} {f : ModelField} (h : f ∈ t.fields) :
    ∃ owner, t.name? = some owner := by
  cases t with
  | record r => exact ⟨r.name, rfl⟩
  | variant v => exact ⟨v.name, rfl⟩
  | _ => cases h

theorem fields_box : (t.box g).fields = t.fields.map (Field.box g (t.name?.getD "")) := by
  cases t <;> rfl

@[simp] theorem inlineReferences_box : (t.box g).inlineReferences = t.inlineReferences := by
  cases t with
  | record r => simp [box, inlineReferences, fields, List.filterMap_map]
  | variant v => simp [box, inlineReferences, fields, List.filterMap_map]
  | _ => rfl

@[simp] theorem unboxed_box : (t.box g).unboxed = t.unboxed := by
  cases t <;> simp [box, unboxed, Function.comp_def]

theorem box_box : (t.box g).box g = t.box g := by
  cases t <;> simp [box, Field.box_box, Function.comp_def]

/-! Lists of types. -/

variable {types : List ModelType}

theorem ofTypes_boxAll (types : List ModelType) :
    ReferenceGraph.ofTypes (boxAll types) = ReferenceGraph.ofTypes types := by
  rw [ReferenceGraph.ofTypes, boxAll, List.foldl_map, ReferenceGraph.ofTypes]
  refine congrArg (fun step : ReferenceGraph → ModelType → ReferenceGraph => types.foldl step {}) ?_
  funext graph t
  simp [ReferenceGraph.addType]

theorem boxAll_boxAll (types : List ModelType) : boxAll (boxAll types) = boxAll types := by
  have htwice : boxAll (boxAll types) =
      (boxAll types).map (box (ReferenceGraph.ofTypes (boxAll types))) := rfl
  rw [htwice, ofTypes_boxAll, boxAll, List.map_map]
  refine List.map_congr_left fun t _ => ?_
  exact box_box _ t

/-- A type after boxing, next to the type before. -/
structure BoxedFrom (types : List ModelType) (before after : ModelType) : Prop where
  /-- Nothing but marks changes. -/
  unboxed : after.unboxed = before.unboxed
  /-- A field is boxed if it was, or if its type is held by value through a chain that leads from
  there back to the owner. -/
  boxed : List.Forall₂ (fun (f f' : ModelField) => f'.boxed = true ↔ f.boxed = true ∨
    ∃ owner target, before.name? = some owner ∧ f.type = .reference target ∧
      Relation.ReflTransGen (Holds types) target owner) before.fields after.fields

theorem boxedFrom_boxAll (types : List ModelType) :
    List.Forall₂ (BoxedFrom types) types (boxAll types) := by
  rw [boxAll, List.forall₂_map_right_iff, List.forall₂_same]
  intro t _
  refine ⟨unboxed_box _ t, ?_⟩
  rw [fields_box, List.forall₂_map_right_iff, List.forall₂_same]
  intro f hf
  obtain ⟨owner, howner⟩ := name?_of_mem_fields hf
  rw [Field.boxed_box, Bool.or_eq_true, Field.closesCycle_ofTypes_iff, howner]
  simp only [Option.getD_some, Option.some.injEq, exists_and_left, exists_eq_left']

/-! What changes. -/

/-- A field that boxing leaves unmarked is left alone. -/
theorem box_field_eq_of_boxed_eq {g : ReferenceGraph} {owner : String} {f : ModelField}
    (h : (f.box g owner).boxed = f.boxed) : f.box g owner = f := by
  rw [Field.boxed_box] at h
  rw [Field.box_eq, h]

theorem length_boxed_le (g : ReferenceGraph) (owner : String) (fs : List ModelField) :
    (fs.filter (·.boxed)).length ≤ ((fs.map (Field.box g owner)).filter (·.boxed)).length := by
  induction fs with
  | nil => simp
  | cons f rest ih =>
    rw [List.map_cons, List.filter_cons, List.filter_cons, Field.boxed_box]
    cases f.boxed <;> cases f.closesCycle g owner <;> simp <;> omega

/-- Boxing marks no field if it leaves the number of marked fields alone. -/
theorem map_box_eq_of_length {g : ReferenceGraph} {owner : String} {fs : List ModelField}
    (h : (fs.filter (·.boxed)).length = ((fs.map (Field.box g owner)).filter (·.boxed)).length) :
    fs.map (Field.box g owner) = fs := by
  induction fs with
  | nil => rfl
  | cons f rest ih =>
    have hle := length_boxed_le g owner rest
    rw [List.map_cons, List.filter_cons, List.filter_cons, Field.boxed_box] at h
    have hflag : (f.box g owner).boxed = f.boxed := by
      rw [Field.boxed_box]
      cases hf : f.boxed with
      | true => rfl
      | false =>
        cases hc : f.closesCycle g owner with
        | false => rfl
        | true =>
          simp only [hf, hc, Bool.or_true, Bool.false_eq_true, if_false, if_true,
            List.length_cons] at h
          omega
    rw [← Field.boxed_box, hflag] at h
    rw [List.map_cons, box_field_eq_of_boxed_eq hflag, ih]
    split at h
    · simpa using h
    · exact h

theorem box_eq_iff_boxedCount {g : ReferenceGraph} {t : ModelType} :
    t.box g = t ↔ t.boxedCount = (t.box g).boxedCount := by
  constructor
  · intro h
    rw [h]
  · intro h
    cases t with
    | record r =>
      have hfields : r.fields.map (Field.box g r.name) = r.fields := map_box_eq_of_length h
      rw [box, hfields]
    | variant v =>
      have hfields : v.fields.map (Field.box g v.name) = v.fields := map_box_eq_of_length h
      rw [box, hfields]
    | _ => rfl

/-- A type of the list is there again after boxing, and every type then comes from one. -/
theorem mem_boxAll {after : ModelType} :
    after ∈ boxAll types ↔ ∃ t ∈ types, t.box (ReferenceGraph.ofTypes types) = after :=
  List.mem_map

/-- The names of the types that boxing changes, in order. -/
theorem boxChanges_eq (types : List ModelType) :
    open Classical in
    (boxChanges types).map some =
      ((types.zip (boxAll types)).filter fun p => p.2 ≠ p.1).map (·.2.name?) := by
  rw [boxChanges, boxAll]
  generalize ReferenceGraph.ofTypes types = g
  induction types with
  | nil => rfl
  | cons t rest ih =>
    rw [List.map_cons, List.zip_cons_cons, List.filterMap_cons, List.filter_cons]
    dsimp only
    by_cases h : t.box g = t
    · rw [if_pos (box_eq_iff_boxedCount.mp h), if_neg (by simpa using h)]
      exact ih
    · rw [if_neg (mt box_eq_iff_boxedCount.mpr h), if_pos (by simpa using h)]
      cases hname : (t.box g).name? with
      | none =>
        -- A type without a name has no fields, and boxing leaves it alone.
        refine absurd ?_ h
        cases t with
        | primitive => rfl
        | reference => rfl
        | array => rfl
        | _ => cases hname
      | some name =>
        rw [List.map_cons, List.map_cons, ih, hname]

/-! Chains of references that stay unboxed. -/

/-- An unboxed reference is one between types before boxing, and one that a chain leads back from is
that of a marker. -/
theorem marker_of_unboxed {owner target : String}
    (h : HoldsThrough (fun f => f.boxed = false) (boxAll types) owner target)
    (hback : Relation.ReflTransGen (Holds types) target owner) :
    ∃ m, .marker m ∈ types ∧ m.name = owner ∧ target ∈ m.variants := by
  cases h with
  | field mem name field counts type =>
    obtain ⟨t, ht, rfl⟩ := mem_boxAll.mp mem
    rw [name?_box] at name
    rw [fields_box, name, Option.getD_some] at field
    obtain ⟨f, _, rfl⟩ := List.mem_map.mp field
    rw [Field.type_box] at type
    have hcloses : f.closesCycle (ReferenceGraph.ofTypes types) owner = true :=
      Field.closesCycle_ofTypes_iff.mpr ⟨target, type, hback⟩
    rw [Field.boxed_box, hcloses, Bool.or_true] at counts
    cases counts
  | @variant m _ mem listed =>
    obtain ⟨t, ht, heq⟩ := mem_boxAll.mp mem
    cases t with
    | marker n =>
      cases heq
      exact ⟨m, ht, rfl, listed⟩
    | _ => cases heq

theorem holds_of_unboxed {owner target : String}
    (h : HoldsThrough (fun f => f.boxed = false) (boxAll types) owner target) :
    Holds types owner target := by
  have hboxed : Holds (boxAll types) owner target := by
    cases h with
    | field mem name field counts type => exact .field mem name field trivial type
    | variant mem listed => exact .variant mem listed
  rwa [← ReferenceGraph.edge_ofTypes, ofTypes_boxAll, ReferenceGraph.edge_ofTypes] at hboxed

/-- Without markers inside of markers, no chain of unboxed references leads back. -/
theorem acyclic_boxAll
    (hmarkers : ∀ m n, .marker m ∈ types → .marker n ∈ types → n.name ∉ m.variants)
    (name : String) :
    ¬ Relation.TransGen (HoldsThrough (fun f => f.boxed = false) (boxAll types)) name name := by
  have hchain : ∀ {a b}, Relation.ReflTransGen
      (HoldsThrough (fun f => f.boxed = false) (boxAll types)) a b →
      Relation.ReflTransGen (Holds types) a b :=
    fun h => h.lift id fun _ _ => holds_of_unboxed
  intro h
  -- The first step is one of a marker, and so is the one after it.
  obtain ⟨second, hfirst, hrest⟩ := Relation.TransGen.head'_iff.mp h
  obtain ⟨m, hm, rfl, hsecond⟩ := marker_of_unboxed hfirst (hchain hrest)
  rcases Relation.ReflTransGen.cases_head hrest with rfl | ⟨third, hstep, hrest⟩
  · exact hmarkers m m hm hm hsecond
  · have hback := (hchain hrest).tail (holds_of_unboxed hfirst)
    obtain ⟨n, hn, rfl, _⟩ := marker_of_unboxed hstep hback
    exact hmarkers m n hm hn hsecond

theorem boxChanges_boxAll (types : List ModelType) : boxChanges (boxAll types) = [] := by
  rw [boxChanges, boxAll_boxAll, List.filterMap_eq_nil_iff]
  intro p hp
  have hsame : p.1 = p.2 := by
    obtain ⟨i, hi, rfl⟩ := List.mem_iff_getElem.mp hp
    rw [List.getElem_zip]
  obtain ⟨before, after⟩ := p
  dsimp only at hsame
  subst hsame
  exact if_pos rfl

/-- Boxing marks the fields on chains that lead back and changes nothing else; what it reports are
the types that change, and boxing again changes nothing. -/
theorem boxing_cuts_cycles (types : List ModelType) :
    open Classical in
    List.Forall₂ (BoxedFrom types) types (boxAll types) ∧
    ((∀ m n, .marker m ∈ types → .marker n ∈ types → n.name ∉ m.variants) → ∀ name,
      ¬ Relation.TransGen (HoldsThrough (fun f => f.boxed = false) (boxAll types)) name name) ∧
    (boxChanges types).map some =
      ((types.zip (boxAll types)).filter fun p => p.2 ≠ p.1).map (·.2.name?) ∧
    boxAll (boxAll types) = boxAll types ∧ boxChanges (boxAll types) = [] := by
  exact ⟨boxedFrom_boxAll types, acyclic_boxAll, boxChanges_eq types, boxAll_boxAll types,
    boxChanges_boxAll types⟩

def referenceField (name wireName target : String) : ModelField where
  name
  wireName
  type := .reference target

def questionTypes : List ModelType := [
  .record ⟨"Question", "Demo", [referenceField "Choice" "choice" "ChoiceOneOf"], none, false⟩,
  .marker ⟨"ChoiceOneOf", "Demo", ["choiceA"]⟩,
  .variant ⟨"choiceA", "Demo", "ChoiceOneOf", [referenceField "Next" "next" "Question"], none⟩]

theorem questionTypes_boxed :
    (∀ m n, .marker m ∈ questionTypes → .marker n ∈ questionTypes → n.name ∉ m.variants) ∧
      Relation.TransGen (Holds questionTypes) "Question" "Question" ∧
      ∀ name, ¬ Relation.TransGen
        (HoldsThrough (fun f => f.boxed = false) (boxAll questionTypes)) name name := by
  have hmarkers : ∀ m n, .marker m ∈ questionTypes → .marker n ∈ questionTypes →
      n.name ∉ m.variants := by
    intro m n hm hn
    simp only [questionTypes, List.mem_cons, reduceCtorEq, marker.injEq, List.not_mem_nil,
      or_false, false_or] at hm hn
    subst hm hn
    decide
  refine ⟨hmarkers, ?_, (boxing_cuts_cycles questionTypes).2.1 hmarkers⟩
  have hchoice : Holds questionTypes "Question" "ChoiceOneOf" :=
    holds_iff.mpr ⟨_, List.mem_cons_self, rfl, by decide⟩
  have hvariant : Holds questionTypes "ChoiceOneOf" "choiceA" :=
    holds_iff.mpr ⟨_, List.mem_cons_of_mem _ List.mem_cons_self, rfl, by decide⟩
  have hnext : Holds questionTypes "choiceA" "Question" :=
    holds_iff.mpr ⟨_, List.mem_cons_of_mem _ (List.mem_cons_of_mem _ List.mem_cons_self), rfl,
      by decide⟩
  exact .head hchoice (.head hvariant (.single hnext))

end ModelType

end ApiForge
