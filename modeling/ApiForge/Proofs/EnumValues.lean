import ApiForge.Model.Resolution
import ApiForge.Proofs.EnumUnit
import ApiForge.Proofs.PrintedValue
import ApiForge.Proofs.ReadSchemas

/-!
The values of enumerations as their units have them. Main statement: the variants of the unit stand
for the values besides null in order, a text for itself and any other value for the text that it is
written as, and no two values are the same on the wire unless one is the text that the other is
written as (`enumeration_variants`). In a document that is read from text this holds of all values
(`enumeration_variants_of_parse`).
-/

namespace ApiForge

namespace Json

def isText : Json → Bool
  | str _ => true
  | _ => false

/-- A value that is no text is written as a text. -/
def WrittenAs (v w : Json) : Prop := v.isText = false ∧ w = .str v.render

theorem valueText_cases (v : Json) :
    v = .str (Resolving.valueText v) ∨ v.WrittenAs (.str (Resolving.valueText v)) := by
  cases v with
  | str s => exact .inl rfl
  | _ => exact .inr ⟨rfl, rfl⟩

/-- Two values have one text only if one of them is the other or is the text it is written as. -/
theorem valueText_eq_iff {v w : Json} (hv : v.Exact) (hw : w.Exact) :
    Resolving.valueText v = Resolving.valueText w ↔ v = w ∨ v.WrittenAs w ∨ w.WrittenAs v := by
  constructor
  · -- Values that are both written as text are told apart by it, and texts are their own.
    intro h
    rcases valueText_cases v with hvtext | hvwritten
    · rcases valueText_cases w with hwtext | hwwritten
      · left
        rw [hvtext, hwtext, h]
      · rw [← h, ← hvtext] at hwwritten
        exact .inr (.inr hwwritten)
    · rcases valueText_cases w with hwtext | hwwritten
      · rw [h, ← hwtext] at hvwritten
        exact .inr (.inl hvwritten)
      · left
        apply render_injective hv hw
        rw [← Json.str.inj hvwritten.2, ← Json.str.inj hwwritten.2, h]
  · have hwritten : ∀ {v w : Json}, v.WrittenAs w →
        Resolving.valueText v = Resolving.valueText w := by
      rintro v w ⟨hv, rfl⟩
      rcases valueText_cases v with htext | ⟨-, heq⟩
      · rw [htext] at hv
        cases hv
      · exact Json.str.inj heq
    rintro (rfl | h | h)
    · rfl
    · exact hwritten h
    · exact (hwritten h).symm

end Json

namespace Emit

/-- A variant stands for a value itself, or for the text that a value is written as. -/
def Represents (v : Json) (variant : EnumVariant) : Prop :=
  v = variant.wireValue ∨ v.WrittenAs variant.wireValue

theorem wire_of_mem_zip {values : List Json} {idents : List String} {p : Json × EnumVariant}
    (h : p ∈ values.zip ((values.map Resolving.valueText).zipWith EnumVariant.mk idents)) :
    p.2.wire = Resolving.valueText p.1 := by
  induction values generalizing idents with
  | nil => cases h
  | cons v values ih =>
    cases idents with
    | nil => cases h
    | cons ident idents =>
      rcases List.mem_cons.mp h with rfl | h
      · rfl
      · exact ih h

/-- The variants in the unit of an enumeration stand for its values besides null and have their
texts on the wire. -/
theorem exists_variants {schema : Schema} {values : List Json}
    (hshape : schema.shape = .enumeration values) (name namespaceName : String)
    (notes : Option String) :
    ∃ variants, declaredVariants?
        (enumerationUnit (Resolving.enumeration name schema namespaceName) notes) = some variants ∧
      (variants.map EnumVariant.ident).Nodup ∧
      List.Forall₂ Represents (values.filter (!·.isNull)) variants ∧
      ∀ p ∈ (values.filter (!·.isNull)).zip variants, p.2.wire = Resolving.valueText p.1 := by
  have hvalues : (Resolving.enumeration name schema namespaceName).values =
      (values.filter (!·.isNull)).map Resolving.valueText := by
    simp only [Resolving.enumeration, hshape]
  generalize values.filter (!·.isNull) = listed at *
  refine ⟨variantsOf (listed.map Resolving.valueText), ?_, ?_, ?_, fun p hp => wire_of_mem_zip hp⟩
  · rw [declaredVariants?_enumerationUnit, hvalues]
  · rw [map_ident_variantsOf]
    exact (Name.nodup_freshAll [] _).1
  · rw [List.forall₂_iff_zip]
    constructor
    · simp [variantsOf, enumIdents, Name.length_freshAll]
    · intro v variant hmem
      rw [Represents, EnumVariant.wireValue, wire_of_mem_zip hmem]
      exact v.valueText_cases

/-- The unit of an enumeration has one variant for each value that is not null, in order and each
with an identifier of its own. Two of them are the same on the wire only if their values are, or if
one of the values is a text and the other is written as this text. -/
theorem enumeration_variants {schema : Schema} {values : List Json}
    (hshape : schema.shape = .enumeration values) (name namespaceName : String)
    (notes : Option String) :
    ∃ variants, declaredVariants?
        (enumerationUnit (Resolving.enumeration name schema namespaceName) notes) = some variants ∧
      (variants.map EnumVariant.ident).Nodup ∧
      List.Forall₂ Represents (values.filter (!·.isNull)) variants ∧
      ∀ p ∈ (values.filter (!·.isNull)).zip variants,
        ∀ q ∈ (values.filter (!·.isNull)).zip variants, p.1.Exact → q.1.Exact →
          (p.2.wire = q.2.wire ↔ p.1 = q.1 ∨ p.1.WrittenAs q.1 ∨ q.1.WrittenAs p.1) := by
  obtain ⟨variants, hread, hidents, hvalues, hwire⟩ :=
    exists_variants hshape name namespaceName notes
  refine ⟨variants, hread, hidents, hvalues, ?_⟩
  intro p hp q hq hpexact hqexact
  rw [hwire p hp, hwire q hq]
  exact Json.valueText_eq_iff hpexact hqexact

/-- For an enumeration in a document that is read from text, be it shared, in a path or inside
another schema, two variants are the same on the wire only if their values are, or if one of the
values is a text and the other is written as this text. -/
theorem enumeration_variants_of_parse {text : String} {d : Document}
    (h : Document.parse text = .ok d) {key : String} {schema : Schema} (hs : d.Stands key schema)
    {values : List Json} (hshape : schema.shape = .enumeration values)
    (name namespaceName : String) (notes : Option String) :
    ∃ variants, declaredVariants?
        (enumerationUnit (Resolving.enumeration name schema namespaceName) notes) = some variants ∧
      (variants.map EnumVariant.ident).Nodup ∧
      List.Forall₂ Represents (values.filter (!·.isNull)) variants ∧
      ∀ p ∈ (values.filter (!·.isNull)).zip variants,
        ∀ q ∈ (values.filter (!·.isNull)).zip variants,
          p.2.wire = q.2.wire ↔ p.1 = q.1 ∨ p.1.WrittenAs q.1 ∨ q.1.WrittenAs p.1 := by
  obtain ⟨variants, hread, hidents, hvalues, hwire⟩ :=
    exists_variants hshape name namespaceName notes
  obtain ⟨hlisted, -, -, -⟩ := (Document.lists_of_parse h).stands hs
  have hexact : ∀ p ∈ (values.filter (!·.isNull)).zip variants, p.1.Exact := fun p hp =>
    (hlisted values hshape p.1 (List.mem_of_mem_filter (List.of_mem_zip hp).1)).exact
  refine ⟨variants, hread, hidents, hvalues, ?_⟩
  intro p hp q hq
  rw [hwire p hp, hwire q hq]
  exact Json.valueText_eq_iff (hexact p hp) (hexact q hq)

/-- The values of an enumeration of all kinds: 3, null, a text, one and a half, and a list. -/
def levelValues : List Json :=
  [.int 3, .null, .str "high", .real ⟨false, 3 * 2 ^ 51, -52⟩, .arr [.bool true]]

theorem exact_levelValues : ∀ v ∈ levelValues, v.Exact := by
  have hreal : Double.Rounded ⟨false, 3 * 2 ^ 51, -52⟩ := ⟨by decide, by decide, by decide⟩
  simp only [levelValues, List.forall_mem_cons]
  exact ⟨trivial, trivial, trivial, hreal, ⟨trivial, trivial⟩, nofun⟩

theorem levelValues_variants :
    ∃ variants, declaredVariants? (enumerationUnit
        (Resolving.enumeration "Level" (.node {} (.enumeration levelValues)) "Demo") none) =
          some variants ∧
      (variants.map EnumVariant.ident).Nodup ∧
      List.Forall₂ Represents (levelValues.filter (!·.isNull)) variants ∧
      ∀ p ∈ (levelValues.filter (!·.isNull)).zip variants,
        ∀ q ∈ (levelValues.filter (!·.isNull)).zip variants,
          p.2.wire = q.2.wire ↔ p.1 = q.1 ∨ p.1.WrittenAs q.1 ∨ q.1.WrittenAs p.1 := by
  have hshape : (Schema.node {} (.enumeration levelValues)).shape = .enumeration levelValues := rfl
  obtain ⟨variants, hread, hidents, hvalues, hwire⟩ :=
    enumeration_variants hshape "Level" "Demo" none
  have hexact : ∀ p ∈ (levelValues.filter (!·.isNull)).zip variants, p.1.Exact := fun p hp =>
    exact_levelValues p.1 (List.mem_of_mem_filter (List.of_mem_zip hp).1)
  exact ⟨variants, hread, hidents, hvalues, fun p hp q hq =>
    hwire p hp q hq (hexact p hp) (hexact q hq)⟩

/-- A number and the text that it is written as are the same on the wire, and there the number is
a text. -/
theorem numberAndText_sameWire :
    declaredVariants? (enumerationUnit
        (Resolving.enumeration "Level" (.node {} (.enumeration [.int 1, .str "1"])) "Demo") none) =
      some [⟨"1", "Value1"⟩, ⟨"1", "Value12"⟩] ∧
    EnumVariant.wireValue ⟨"1", "Value1"⟩ ≠ .int 1 ∧ Json.int 1 ≠ .str "1" := by
  refine ⟨?_, nofun, nofun⟩
  rw [declaredVariants?_enumerationUnit]
  decide

end Emit

end ApiForge
