import ApiForge.Proofs.ClassName
import ApiForge.Proofs.EnumUnit
import ApiForge.Proofs.Identifier
import ApiForge.Proofs.LetterKind

/-!
Identifiers of the variants of enumerations. They are made of the letters and numbers of the listed
texts, but a letter or number need not be a character of identifiers: the class of `½`, of circled
letters and of digits of other scripts is wider. Capitals do not matter: a letter may stand in an
identifier exactly when its capital may, and begin one likewise, with one exception. Main statement:
a variant has an identifier that can be used exactly when all letters and numbers of its text may
continue an identifier and the first one is a digit or may begin one (`variantIdents_usable_iff`).
-/

namespace ApiForge

namespace Name

open Text

/-- The letters and numbers of a text, which its identifier is made of. -/
def letters (value : String) : List Char := value.toList.filter isAlphanumeric

/-- Whether a text has an identifier: its first letter is a digit, which a word is put before, or
may begin an identifier, or is the one mark that turns into such a letter, and the others may
continue an identifier. -/
structure Spellable (value : String) : Prop where
  begins : ∀ c ∈ (letters value).head?,
    c.isDigit = true ∨ startsIdentifier c = true ∨ c = '\u0345'
  continues : ∀ c ∈ (letters value).tail, continuesIdentifier c = true

/-- An identifier that the language takes as the name of a variant. -/
def Usable (ident : String) : Prop :=
  Code.isWord ident.toList = true ∧ ident ∉ rawableKeywords ++ pathKeywords

theorem sameKind_of_not_isLowercase {c : Char} (h : isLowercase c = false) : SameKind c c := by
  apply sameKind_self
  rintro rfl
  revert h
  decide

theorem all_continues_titleChars (start : Bool) (l : List Char) :
    (titleChars start l).all continuesIdentifier =
      (l.filter (!separatesWords ·)).all continuesIdentifier := by
  induction l generalizing start with
  | nil => rfl
  | cons c l ih =>
    rw [titleChars]
    cases hc : separatesWords c with
    | true => simpa [hc] using ih true
    | false =>
      rw [List.filter_cons_of_pos (by simp [hc]), List.all_cons, ← ih false]
      cases hs : start && isLowercase c with
      | true =>
        obtain ⟨head, rest, heq, hkind, hrest⟩ := exists_sameKind c
        simp [heq, hkind.continues, hrest]
      | false => simp

/-- The title case of characters is empty if all of them separate words, and else it begins with
the capital of the first one that does not. -/
theorem titleChars_cases (l : List Char) :
    l.filter (!separatesWords ·) = [] ∧ titleChars true l = [] ∨
      ∃ c more head rest, l.filter (!separatesWords ·) = c :: more ∧
        titleChars true l = head :: rest ∧ SameKind c head ∧
        rest.all continuesIdentifier = more.all continuesIdentifier := by
  induction l with
  | nil => exact .inl ⟨rfl, rfl⟩
  | cons c l ih =>
    rw [titleChars]
    cases hc : separatesWords c with
    | true => simpa [hc] using ih
    | false =>
      right
      rw [List.filter_cons_of_pos (by simp [hc])]
      have hmore := all_continues_titleChars false l
      cases hsmall : isLowercase c with
      | true =>
        obtain ⟨head, rest, heq, hkind, hrest⟩ := exists_sameKind c
        refine ⟨c, _, head, rest ++ titleChars false l, rfl, by simp [heq], hkind, ?_⟩
        rw [List.all_append, hrest, Bool.true_and, hmore]
      | false =>
        exact ⟨c, _, c, titleChars false l, rfl, by simp, sameKind_of_not_isLowercase hsmall, hmore⟩

theorem isMark_of_isAlphanumeric {c : Char} (h : isAlphanumeric c = true) : isMark c = false := by
  rw [← Bool.not_eq_true]
  intro hmark
  simp only [isMark, separatesWords, isPunctuation, Bool.or_eq_true, beq_iff_eq] at hmark
  revert h
  rcases hmark with (((rfl | rfl) | rfl) | ((((rfl | rfl) | rfl) | rfl) | rfl)) | rfl <;>
    decide

theorem filter_marked (l : List Char) :
    (l.map fun c => if isAlphanumeric c then c else '_').filter (!separatesWords ·) =
      l.filter isAlphanumeric := by
  induction l with
  | nil => rfl
  | cons c l ih =>
    rw [List.map_cons]
    cases hc : isAlphanumeric c with
    | true =>
      rw [List.filter_cons_of_pos (by simp [not_separatesWords (isMark_of_isAlphanumeric hc)]),
        List.filter_cons_of_pos hc, ih, if_pos rfl]
    | false =>
      rw [List.filter_cons_of_neg (by simp [separatesWords]),
        List.filter_cons_of_neg (by simp [hc]), ih]

/-- The words of a text hold nothing if the text has no letters, and else they begin with the
capital of the first one. -/
theorem titleWords_cases (value : String) :
    letters value = [] ∧ (titleWords value).toList = [] ∨
      ∃ c more head rest, letters value = c :: more ∧ (titleWords value).toList = head :: rest ∧
        SameKind c head ∧ rest.all continuesIdentifier = more.all continuesIdentifier := by
  rw [letters, ← filter_marked, titleWords, String.toList_ofList]
  exact titleChars_cases _

/-- What is made of a text begins with no small letter that has a capital and holds no mark. -/
theorem settled_titleWords (value : String) : Settled (titleWords value).toList := by
  rw [titleWords, String.toList_ofList]
  refine (settled_titleChars true fun c hc hseparates => ?_).2 rfl
  obtain ⟨d, -, rfl⟩ := List.mem_map.mp hc
  split at hseparates
  · next halphanumeric =>
    rw [if_pos halphanumeric]
    exact isMark_of_isAlphanumeric halphanumeric
  · cases hseparates

theorem settled_variantIdent (value : String) : Settled (variantIdent value).toList := by
  have hsettled : ∀ {w : String} {c : Char} {rest : List Char}, w.toList = c :: rest →
      (c :: rest).all (fun d => !isMark d) = true → isLowercase c = false → Settled w.toList := by
    intro w c rest hw hmarks hsmall
    rw [hw]
    refine ⟨unmarked_of_all hmarks, fun d more heq hd => ?_⟩
    obtain ⟨rfl, -⟩ := List.cons.inj heq
    rw [hsmall] at hd
    cases hd
  have hvalue : Settled "Value".toList := hsettled rfl (by decide) (by decide)
  have hwords := settled_titleWords value
  simp only [variantIdent]
  split_ifs
  · exact hsettled (w := "Empty") rfl (by decide) (by decide)
  · rw [String.toList_append]
    exact settled_append hvalue hwords
  · exact hsettled rfl (by decide) (by decide)
  · exact hwords

/-- Every keyword but one begins with a small letter that has a capital. -/
theorem eq_Self_of_settled {word : String} (h : word ∈ rawableKeywords ++ pathKeywords)
    (hsettled : Settled word.toList) : word = "Self" := by
  have hall : ∀ k ∈ rawableKeywords ++ pathKeywords, k = "Self" ∨
      (k.toList.head?.any fun c => isLowercase c && toUppercase c != [c]) = true := by
    decide
  refine (hall word h).resolve_right fun hsmall => ?_
  rcases hchars : word.toList with _ | ⟨c, rest⟩
  · rw [hchars] at hsmall
    cases hsmall
  · rw [hchars] at hsmall
    simp only [List.head?_cons, Option.any_some, Bool.and_eq_true, bne_iff_ne] at hsmall
    exact hsmall.2 (hsettled.head c rest hchars hsmall.1)

theorem variantIdent_ne_self (value : String) : variantIdent value ≠ "Self" := by
  simp only [variantIdent]
  split_ifs with hempty hdigit hself
  · decide
  · intro h
    have hhead := congrArg (fun s => s.toList.head?) h
    simp at hhead
  · decide
  · exact hself

/-- No variant is named like a keyword. -/
theorem candidate_variantIdent_notMem (value : String) (k : Nat) :
    candidate (variantIdent value) k ∉ rawableKeywords ++ pathKeywords := by
  apply candidate_notMem_keywords
  exact fun h => variantIdent_ne_self value (eq_Self_of_settled h (settled_variantIdent value))

theorem continuesIdentifier_of_isDigit {c : Char} (h : c.isDigit = true) :
    continuesIdentifier c = true :=
  continuesIdentifier_of_isPlain (.inl (by rw [isPlain, h, Bool.or_true]))

theorem isWord_append {w : List Char} (hw : w ≠ []) (t : List Char) :
    Code.isWord (w ++ t) = (Code.isWord w && t.all continuesIdentifier) := by
  obtain ⟨c, rest, rfl⟩ := List.exists_cons_of_ne_nil hw
  rw [List.cons_append, Code.isWord, Code.isWord, List.all_append, Bool.and_assoc]

/-- A name with a number behind it has the form of a word exactly when the name has. -/
theorem isWord_candidate {wanted : String} (hne : wanted.toList ≠ []) (k : Nat) :
    Code.isWord (candidate wanted k).toList = Code.isWord wanted.toList := by
  cases k with
  | zero => rfl
  | succ k =>
    have hdigits : (toString (k + 2)).toList.all continuesIdentifier = true :=
      List.all_eq_true.mpr fun d hd => continuesIdentifier_of_isDigit (isDigit_of_mem_toString hd)
    rw [toList_candidate_succ, isWord_append hne, hdigits, Bool.and_true]

theorem spellable_iff {value : String} {c : Char} {more : List Char}
    (h : letters value = c :: more) :
    Spellable value ↔ (c.isDigit = true ∨ startsIdentifier c = true ∨ c = '\u0345') ∧
      more.all continuesIdentifier = true := by
  constructor
  · rintro ⟨hbegins, hcontinues⟩
    rw [h] at hbegins hcontinues
    exact ⟨hbegins c rfl, List.all_eq_true.mpr hcontinues⟩
  · rintro ⟨hbegins, hcontinues⟩
    refine ⟨?_, ?_⟩
    · rw [h]
      rintro d hd
      obtain rfl := Option.some.inj hd
      exact hbegins
    · rw [h]
      exact List.all_eq_true.mp hcontinues

/-- The words of a text have the form of a word exactly when its letters allow that, unless they
begin with a digit. -/
theorem isWord_titleWords_iff {value : String} {head : Char} {rest : List Char}
    (hwords : (titleWords value).toList = head :: rest) :
    (head.isDigit = true → (rest.all continuesIdentifier = true ↔ Spellable value)) ∧
      (head.isDigit = false → (Code.isWord (head :: rest) = true ↔ Spellable value)) := by
  rcases titleWords_cases value with
    ⟨-, hempty⟩ | ⟨c, more, first, others, hletters, hfirst, hkind, hothers⟩
  · rw [hwords] at hempty
    cases hempty
  · rw [hwords] at hfirst
    obtain ⟨rfl, rfl⟩ := List.cons.inj hfirst
    have hunderscore : head ≠ '_' := by
      rintro rfl
      have hmem : '_' ∈ (titleWords value).toList := by
        rw [hwords]
        exact List.mem_cons_self
      have hmark := (settled_titleWords value).unmarked '_' hmem
      revert hmark
      decide
    rw [spellable_iff hletters, hothers, ← hkind.digit, ← hkind.begins]
    constructor
    · intro hdigit
      simp [hdigit]
    · intro hdigit
      simp [hdigit, Code.isWord, Code.startsWord, hunderscore, hothers]

/-- The identifier of a text has the form of a word exactly when its letters allow that. -/
theorem isWord_variantIdent_iff (value : String) :
    Code.isWord (variantIdent value).toList = true ↔ Spellable value := by
  rcases titleWords_cases value with
    ⟨hnone, hempty⟩ | ⟨-, -, head, rest, -, hwords, -, -⟩
  · have hword : Code.isWord "Empty".toList = true := by decide
    have hspell : Spellable value := ⟨by simp [hnone], by simp [hnone]⟩
    rw [variantIdent, String.toList_eq_nil_iff.mp hempty]
    exact iff_of_true hword hspell
  · obtain ⟨hdigits, hletters⟩ := isWord_titleWords_iff hwords
    have hsome : (titleWords value).isEmpty = false := by
      rw [← Bool.not_eq_true, String.isEmpty_iff, ← String.toList_eq_nil_iff, hwords]
      exact List.cons_ne_nil head rest
    have hstarts : startsWithDigit (titleWords value) = head.isDigit := by
      rw [startsWithDigit, hwords]
    simp only [variantIdent, hsome, hstarts, Bool.false_eq_true, if_false]
    cases hdigit : head.isDigit with
    | true =>
      have hvalue : Code.isWord "Value".toList = true := by decide
      rw [if_pos rfl, ← hdigits hdigit, String.toList_append, hwords,
        isWord_append (by decide), hvalue, List.all_cons, continuesIdentifier_of_isDigit hdigit,
        Bool.true_and, Bool.true_and]
    | false =>
      rw [if_neg Bool.false_ne_true, ← hletters hdigit, ← hwords]
      split_ifs with hself
      · rw [hself]
        exact iff_of_true (by decide) (by decide)
      · rfl

theorem toList_variantIdent_ne_nil (value : String) : (variantIdent value).toList ≠ [] := by
  simp only [variantIdent]
  split_ifs with hempty
  · decide
  · simp
  · decide
  · rw [Ne, String.toList_eq_nil_iff, ← String.isEmpty_iff]
    exact hempty

theorem usable_candidate_iff (value : String) (k : Nat) :
    Usable (candidate (variantIdent value) k) ↔ Spellable value := by
  rw [Usable, isWord_candidate (toList_variantIdent_ne_nil value), isWord_variantIdent_iff]
  exact and_iff_left (candidate_variantIdent_notMem value k)

/-- The names that are given out are candidates for the wanted ones, in order. -/
theorem forall₂_freshAll (used wanted : List String) :
    List.Forall₂ (fun w name => ∃ k, name = candidate w k) wanted (freshAll used wanted) := by
  induction wanted generalizing used with
  | nil => exact .nil
  | cons w rest ih => exact .cons (exists_candidate_fresh used w) (ih _)

end Name

namespace Emit

open Name

theorem map_wire_variantsOf (values : List String) :
    (variantsOf values).map EnumVariant.wire = values := by
  have hlength : (enumIdents values).length = values.length := by
    rw [enumIdents, length_freshAll, List.length_map]
  rw [variantsOf, List.map_zipWith, ← List.map_uncurry_zip_eq_zipWith]
  exact List.map_fst_zip hlength.ge

theorem usable_variantsOf (values : List String) :
    List.Forall₂ (fun value variant => Usable variant.ident ↔ Spellable value) values
      (variantsOf values) := by
  have hidents : List.Forall₂ (fun value ident => Usable ident ↔ Spellable value) values
      (enumIdents values) := by
    refine (List.forall₂_map_left_iff.mp (forall₂_freshAll [] _)).imp ?_
    rintro value ident ⟨k, rfl⟩
    exact usable_candidate_iff value k
  rw [← map_ident_variantsOf, List.forall₂_map_right_iff] at hidents
  exact hidents

/-- The unit of an enumeration has one variant for each listed text, and the identifier of one can
be used exactly when the letters and numbers of its text allow it, whatever the other texts are.
So all of them can be used exactly when all texts allow it. -/
theorem variantIdents_usable_iff (e : EnumType) (notes : Option String) :
    ∃ variants, declaredVariants? (enumerationUnit e notes) = some variants ∧
      variants.map EnumVariant.wire = e.values ∧
      List.Forall₂ (fun value variant => Usable variant.ident ↔ Spellable value) e.values
        variants ∧
      ((∀ variant ∈ variants, Usable variant.ident) ↔ ∀ value ∈ e.values, Spellable value) := by
  have husable := usable_variantsOf e.values
  refine ⟨variantsOf e.values, declaredVariants?_enumerationUnit e notes,
    map_wire_variantsOf e.values, husable, ?_⟩
  revert husable
  generalize e.values = values, variantsOf e.values = variants
  intro husable
  induction husable with
  | nil => exact iff_of_true nofun nofun
  | cons h _ ih => rw [List.forall_mem_cons, List.forall_mem_cons, h, ih]

/-- One half is a number and no character of identifiers. -/
theorem halfVariant_unusable :
    declaredVariants? (enumerationUnit ⟨"Level", "Demo", ["½", "low"], none⟩ none) =
      some [⟨"½", "½"⟩, ⟨"low", "Low"⟩] ∧ ¬Usable "½" := by
  constructor
  · rw [declaredVariants?_enumerationUnit]
    decide
  · intro h
    have hword : Code.isWord "½".toList = false := by decide
    rw [h.1] at hword
    cases hword

end Emit

end ApiForge
