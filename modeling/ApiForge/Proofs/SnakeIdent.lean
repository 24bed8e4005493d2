import ApiForge.Proofs.FileStem
import ApiForge.Proofs.Pieces

/-!
The snake case identifiers of names that differ. Digits behind a name belong to its last word and
change no other, so the numbered candidates for a name have identifiers that differ, and what is
left of an identifier without the mark of a raw one tells which it was. Main statements:
`snakeIdent_candidate_injective` and `escapeKeyword_plainIdent`.
-/

namespace ApiForge

namespace Text

/-- What holds of every character below a bound is checked on their numbers. -/
theorem forall_toNat_lt {P : Char → Prop} {b : Nat} (h : ∀ n < b, P (Char.ofNat n)) :
    ∀ c : Char, c.toNat < b → P c := by
  intro c hc
  have hp := h c.toNat hc
  rwa [Char.ofNat_toNat] at hp

theorem toNat_lt_of_isDigit {c : Char} (h : c.isDigit = true) : c.toNat < 58 :=
  Nat.lt_succ_of_le (Char.isDigit_iff_toNat.mp h).2

theorem digit_facts {c : Char} (h : c.isDigit = true) :
    isAlphanumeric c = true ∧ isLowercase c = false ∧ isUppercase c = false ∧
      toLowercase c = [c] := by
  have hall : ∀ c : Char, c.toNat < 58 → c.isDigit = true → isAlphanumeric c = true ∧
      isLowercase c = false ∧ isUppercase c = false ∧ toLowercase c = [c] :=
    forall_toNat_lt (by decide)
  exact hall c (toNat_lt_of_isDigit h) h

/-- A digit ends no word before it and begins none. -/
theorem humps_cons_digit (seen : Casing) (word : List Char) (c : Char) {d : Char}
    (hd : d.isDigit = true) (rest : List Char) :
    humps seen word (c :: d :: rest) = humps (seen.after c) (c :: word) (d :: rest) := by
  obtain ⟨-, hlower, hupper, -⟩ := digit_facts hd
  simp [humps, hlower, hupper]

theorem humps_digits (seen : Casing) (word : List Char) {t : List Char}
    (ht : ∀ c ∈ t, c.isDigit = true) : humps seen word t = [word.reverse ++ t] := by
  induction t generalizing seen word with
  | nil => simp [humps]
  | cons c t ih =>
    cases t with
    | nil => simp [humps]
    | cons d t =>
      have hrest := (List.forall_mem_cons.mp ht).2
      rw [humps_cons_digit _ _ _ (hrest d List.mem_cons_self), ih _ _ hrest]
      simp

theorem exists_humps_append (seen : Casing) (word s : List Char) :
    ∃ front last, humps seen word s = front ++ [last] ∧
      ∀ t, (∀ c ∈ t, c.isDigit = true) → humps seen word (s ++ t) = front ++ [last ++ t] := by
  induction seen, word, s using humps.induct with
  | case1 seen word => exact ⟨[], word.reverse, by simp [humps], fun t ht => humps_digits _ _ ht⟩
  | case2 seen word c =>
    refine ⟨[], (c :: word).reverse, by simp [humps], fun t ht => ?_⟩
    cases t with
    | nil => simp [humps]
    | cons d t =>
      rw [List.singleton_append, humps_cons_digit _ _ _ (ht d List.mem_cons_self),
        humps_digits _ _ ht, List.nil_append]
  | case3 seen word c d rest hends ih =>
    obtain ⟨front, last, heq, happend⟩ := ih
    refine ⟨(c :: word).reverse :: front, last, ?_, fun t ht => ?_⟩
    · rw [humps, if_pos hends, heq, List.cons_append]
    · rw [List.cons_append, List.cons_append, humps, if_pos hends, ← List.cons_append,
        happend t ht, List.cons_append]
  | case4 seen word c d rest hends hstarts ih =>
    obtain ⟨front, last, heq, happend⟩ := ih
    refine ⟨word.reverse :: front, last, ?_, fun t ht => ?_⟩
    · rw [humps, if_neg hends, if_pos hstarts, heq, List.cons_append]
    · rw [List.cons_append, List.cons_append, humps, if_neg hends, if_pos hstarts,
        ← List.cons_append, happend t ht, List.cons_append]
  | case5 seen word c d rest hends hstarts ih =>
    obtain ⟨front, last, heq, happend⟩ := ih
    refine ⟨front, last, ?_, fun t ht => ?_⟩
    · rw [humps, if_neg hends, if_neg hstarts, heq]
    · rw [List.cons_append, List.cons_append, humps, if_neg hends, if_neg hstarts,
        ← List.cons_append, happend t ht]

/-- The words of a name with digits behind it: its last word goes on, or the digits are one. -/
theorem exists_words_append (s : List Char) :
    ∃ front last, (words s = front ++ [last] ∨ last = [] ∧ words s = front) ∧
      ∀ t, t ≠ [] → (∀ c ∈ t, c.isDigit = true) → words (s ++ t) = front ++ [last ++ t] := by
  obtain ⟨front, last, heq, hpieces⟩ := exists_pieces_append (fun c => !isAlphanumeric c) s
  have happend : ∀ t, (∀ c ∈ t, c.isDigit = true) →
      pieces (fun c => !isAlphanumeric c) (s ++ t) = front ++ [last ++ t] := fun t ht =>
    hpieces t t [] (pieces_of_forall_not fun c hc => by simp [digit_facts (ht c hc)])
  cases last with
  | nil =>
    refine ⟨words s, [], .inr ⟨rfl, rfl⟩, fun t hne ht => ?_⟩
    have hempty : t.isEmpty = false := by simpa using hne
    rw [words, words, happend t ht, heq, List.flatMap_append, List.flatMap_append,
      List.nil_append, List.flatMap_singleton, List.flatMap_singleton, hempty,
      humps_digits _ _ ht]
    simp
  | cons c last =>
    obtain ⟨front', last', heq', happend'⟩ := exists_humps_append .unset [] (c :: last)
    refine ⟨front.flatMap (fun piece => if piece.isEmpty then [] else humps .unset [] piece) ++
      front', last', .inl ?_, fun t _ ht => ?_⟩
    · rw [words, heq, List.flatMap_append, List.flatMap_singleton, List.append_assoc, ← heq']
      rfl
    · rw [words, happend t ht, List.flatMap_append, List.flatMap_singleton,
        List.append_assoc, ← happend' t ht]
      rfl

theorem intercalate_concat (separator : Char) (ls : List (List Char)) (l : List Char) :
    [separator].intercalate (ls ++ [l]) = ls.flatMap (· ++ [separator]) ++ l := by
  induction ls with
  | nil => simp
  | cons k ls ih =>
    cases ls with
    | nil => simp [List.intercalate_cons_cons]
    | cons m ls =>
      rw [List.cons_append, List.cons_append, List.intercalate_cons_cons, ← List.cons_append, ih]
      simp

theorem lowerWord_append_digits (w : List Char) {t : List Char} (hne : t ≠ [])
    (ht : ∀ c ∈ t, c.isDigit = true) : lowerWord (w ++ t) = w.flatMap toLowercase ++ t := by
  induction w with
  | nil =>
    induction t with
    | nil => exact absurd rfl hne
    | cons c t ih =>
      obtain ⟨hc, ht⟩ := List.forall_mem_cons.mp ht
      obtain ⟨-, -, -, hsame⟩ := digit_facts hc
      cases t with
      | nil =>
        have hsigma : c ≠ 'Σ' := by
          rintro rfl
          cases hc
        simp [lowerWord, hsigma, hsame]
      | cons d t =>
        have hrest : lowerWord (d :: t) = d :: t := ih (List.cons_ne_nil d t) ht
        simp [lowerWord, hsame, hrest]
  | cons c w ih =>
    obtain ⟨d, rest, hrest⟩ := List.exists_cons_of_ne_nil (List.append_ne_nil_of_right_ne_nil w hne)
    rw [List.cons_append, hrest, lowerWord, ← hrest, ih, List.flatMap_cons, List.append_assoc]
    exact List.cons_ne_nil d rest

def beginsWithDigit (s : List Char) : Bool := s.head?.any Char.isDigit

/-- The final form of a letter is one character like its other small form, and no digit. -/
theorem lowerWord_like (w : List Char) :
    (lowerWord w).length = (w.flatMap toLowercase).length ∧
      beginsWithDigit (lowerWord w) = beginsWithDigit (w.flatMap toLowercase) := by
  have hsigma : (toLowercase 'Σ').length = 1 ∧ beginsWithDigit (toLowercase 'Σ') = false := by
    decide
  induction w with
  | nil => exact ⟨rfl, rfl⟩
  | cons c w ih =>
    cases w with
    | nil =>
      rw [lowerWord, List.flatMap_singleton]
      split
      · next h =>
        rw [h, hsigma.1, hsigma.2]
        exact ⟨rfl, rfl⟩
      · exact ⟨rfl, rfl⟩
    | cons d w =>
      rw [lowerWord, List.flatMap_cons, List.length_append, List.length_append, ih.1]
      refine ⟨rfl, ?_⟩
      have hbegins := ih.2
      simp only [beginsWithDigit, List.head?_append] at hbegins ⊢
      cases (toLowercase c).head? with
      | none => simpa using hbegins
      | some e => rfl
      · exact List.cons_ne_nil d w

theorem beginsWithDigit_append_left {s : List Char} (h : s ≠ []) (t : List Char) :
    beginsWithDigit (s ++ t) = beginsWithDigit s := by
  cases s with
  | nil => exact absurd rfl h
  | cons c s => rfl

theorem beginsWithDigit_append_congr {s t : List Char}
    (h : beginsWithDigit s = beginsWithDigit t) (front : List Char) :
    beginsWithDigit (front ++ s) = beginsWithDigit (front ++ t) := by
  cases front with
  | nil => exact h
  | cons c front => rfl

/-- What a name in snake case is with digits behind it: up to the form of its last letter it goes
on with an underscore and the digits or with the digits alone. -/
theorem exists_snakeCase_append (s : List Char) :
    ∃ stem, ((snakeCase s).length ≤ stem.length ∧
        (snakeCase s ≠ [] → beginsWithDigit (snakeCase s) = beginsWithDigit stem)) ∧
      ∀ t, t ≠ [] → (∀ c ∈ t, c.isDigit = true) → snakeCase (s ++ t) = stem ++ t := by
  obtain ⟨front, last, hwords, happend⟩ := exists_words_append s
  refine ⟨(front.map lowerWord).flatMap (· ++ ['_']) ++ last.flatMap toLowercase, ?_,
    fun t hne ht => ?_⟩
  · rcases hwords with heq | ⟨rfl, heq⟩
    · obtain ⟨hlength, hbegins⟩ := lowerWord_like last
      rw [snakeCase, heq, List.map_append, List.map_singleton, intercalate_concat,
        List.length_append, List.length_append, hlength]
      exact ⟨le_rfl, fun _ => beginsWithDigit_append_congr hbegins _⟩
    · rw [snakeCase, heq, List.flatMap_nil, List.append_nil]
      rcases List.eq_nil_or_concat (front.map lowerWord) with hnil | ⟨init, w, hinit⟩
      · rw [hnil]
        exact ⟨Nat.zero_le _, fun h => absurd rfl h⟩
      · rw [hinit, List.concat_eq_append, intercalate_concat, List.flatMap_append,
          List.flatMap_singleton, ← List.append_assoc]
        refine ⟨?_, fun h => (beginsWithDigit_append_left h _).symm⟩
        exact (List.sublist_append_left _ ['_']).length_le
  · rw [snakeCase, happend t hne ht, List.map_append, List.map_singleton, intercalate_concat,
      lowerWord_append_digits last hne ht, List.append_assoc]

end Text

namespace Name

open Text

/-- A text that begins with no digit, since one that does gets an underscore before it. -/
def guardDigit (s : List Char) : List Char := if beginsWithDigit s then '_' :: s else s

theorem exists_guardDigit_append (stem : List Char) :
    ∃ guarded, (∀ t, t ≠ [] → (∀ c ∈ t, c.isDigit = true) →
        guardDigit (stem ++ t) = guarded ++ t) ∧
      ∀ s, s ≠ [] → s.length ≤ stem.length → beginsWithDigit s = beginsWithDigit stem →
        (guardDigit s).length ≤ guarded.length := by
  cases stem with
  | nil =>
    refine ⟨['_'], fun t hne ht => ?_, fun s hne hlength => ?_⟩
    · cases t with
      | nil => exact absurd rfl hne
      | cons c t =>
        have hc : beginsWithDigit (c :: t) = true := ht c List.mem_cons_self
        rw [List.nil_append, guardDigit, if_pos hc]
        rfl
    · exact absurd (List.eq_nil_of_length_eq_zero (Nat.le_zero.mp hlength)) hne
  | cons c stem =>
    refine ⟨guardDigit (c :: stem), fun t _ _ => ?_, fun s _ hlength hbegins => ?_⟩
    · rw [guardDigit, guardDigit, beginsWithDigit_append_left (List.cons_ne_nil c stem)]
      split <;> rfl
    · rw [guardDigit, guardDigit, hbegins]
      split
      · exact Nat.succ_le_succ hlength
      · exact hlength

theorem snakeIdent_eq (name : String) :
    snakeIdent name =
      if Text.snakeCase name.toList = [] then "value"
      else escapeKeyword (String.ofList (guardDigit (Text.snakeCase name.toList))) := by
  have hstarts : ∀ s, startsWithDigit (String.ofList s) = beginsWithDigit s := by
    intro s
    rw [startsWithDigit, String.toList_ofList]
    cases s <;> rfl
  have hguard : ∀ s,
      (if beginsWithDigit s = true then "_" ++ String.ofList s else String.ofList s) =
        String.ofList (guardDigit s) := by
    intro s
    rw [guardDigit]
    split
    · change String.ofList ['_'] ++ String.ofList s = String.ofList (['_'] ++ s)
      exact String.ofList_append.symm
    · rfl
  rw [snakeIdent, snakeCase, hstarts, hguard]
  refine if_congr ?_ rfl rfl
  rw [String.isEmpty_iff]
  exact String.ofList_eq_empty_iff

def endsInDigit (s : String) : Bool := s.toList.getLast?.any Char.isDigit

theorem endsInDigit_append {s : String} {stem t : List Char} (hs : s.toList = stem ++ t)
    (hne : t ≠ []) (ht : ∀ c ∈ t, c.isDigit = true) : endsInDigit s = true := by
  have hlast : t.getLast? = some (t.getLast hne) := List.getLast?_eq_some_getLast hne
  rw [endsInDigit, hs, List.getLast?_append, hlast]
  exact ht _ (List.getLast_mem hne)

theorem endsInDigit_candidate_succ (wanted : String) (n : Nat) :
    endsInDigit (candidate wanted (n + 1)) = true :=
  endsInDigit_append (toList_candidate_succ wanted n) (toList_toString_ne_nil (n + 2))
    fun _ hc => isDigit_of_mem_toString hc

/-- What is written so that it is no keyword ends in no digit. -/
theorem escapeKeyword_cases (s : String) :
    escapeKeyword s = s ∨ endsInDigit (escapeKeyword s) = false := by
  have hpath : pathKeywords.all (fun k => !endsInDigit (k ++ "_")) = true := by decide
  have hraw : rawableKeywords.all (fun k => !endsInDigit (rawMark ++ k)) = true := by
    decide
  rw [escapeKeyword]
  split
  · next h =>
    have hk := List.all_eq_true.mp hpath s (List.contains_iff_mem.mp h)
    exact .inr (by simpa using hk)
  · split
    · next h =>
      have hk := List.all_eq_true.mp hraw s (List.contains_iff_mem.mp h)
      exact .inr (by simpa using hk)
    · exact .inl rfl

/-- No keyword ends in a digit. -/
theorem notMem_keywords_of_endsInDigit {s : String} (h : endsInDigit s = true) :
    s ∉ rawableKeywords ++ pathKeywords := by
  have hall : (rawableKeywords ++ pathKeywords).all (fun k => !endsInDigit k) = true := by
    decide
  intro hmem
  have hk := List.all_eq_true.mp hall s hmem
  simp [h] at hk

/-- No number makes a keyword of a name. -/
theorem candidate_notMem_keywords {wanted : String}
    (h : wanted ∉ rawableKeywords ++ pathKeywords) (n : Nat) :
    candidate wanted n ∉ rawableKeywords ++ pathKeywords := by
  cases n with
  | zero => exact h
  | succ n => exact notMem_keywords_of_endsInDigit (endsInDigit_candidate_succ wanted n)

theorem escapeKeyword_of_endsInDigit {s : String} (h : endsInDigit s = true) :
    escapeKeyword s = s := by
  have hnot := notMem_keywords_of_endsInDigit h
  rw [List.mem_append, not_or] at hnot
  rw [escapeKeyword, if_neg (List.contains_iff_mem.not.mpr hnot.2),
    if_neg (List.contains_iff_mem.not.mpr hnot.1)]

/-- The identifiers of a name with a number behind it, and that of the name alone where it could be
one of them. -/
theorem exists_snakeIdent_candidate (wanted : String) :
    ∃ stem : List Char,
      (∀ n, (snakeIdent (candidate wanted (n + 1))).toList =
        stem ++ (toString (n + 2)).toList) ∧
      (endsInDigit (snakeIdent wanted) = true →
        (snakeIdent wanted).toList.length ≤ stem.length) := by
  obtain ⟨stem, ⟨hlength, hbegins⟩, happend⟩ := exists_snakeCase_append wanted.toList
  obtain ⟨guarded, hguarded, hle⟩ := exists_guardDigit_append stem
  refine ⟨guarded, fun n => ?_, fun hends => ?_⟩
  · have hne := toList_toString_ne_nil (n + 2)
    have hdigits : ∀ c ∈ (toString (n + 2)).toList, c.isDigit = true :=
      fun c hc => isDigit_of_mem_toString hc
    have hcase : Text.snakeCase (candidate wanted (n + 1)).toList =
        stem ++ (toString (n + 2)).toList := by
      rw [toList_candidate_succ, happend _ hne hdigits]
    rw [snakeIdent_eq, hcase, if_neg (List.append_ne_nil_of_right_ne_nil stem hne),
      hguarded _ hne hdigits, escapeKeyword_of_endsInDigit, String.toList_ofList]
    exact endsInDigit_append String.toList_ofList hne hdigits
  · rw [snakeIdent_eq] at hends ⊢
    split at hends
    · cases hends
    · next hsome =>
      rw [if_neg hsome]
      rcases escapeKeyword_cases (String.ofList (guardDigit (Text.snakeCase wanted.toList)))
        with hsame | hother
      · rw [hsame, String.toList_ofList]
        exact hle _ hsome hlength (hbegins hsome)
      · rw [hother] at hends
        cases hends

/-- The numbered candidates for a name have different identifiers. -/
theorem snakeIdent_candidate_injective (wanted : String) :
    Function.Injective fun n => snakeIdent (candidate wanted n) := by
  obtain ⟨stem, hnumbered, halone⟩ := exists_snakeIdent_candidate wanted
  refine injective_of_numbered hnumbered fun n h => ?_
  have hne := toList_toString_ne_nil (n + 2)
  have hends := endsInDigit_append (hnumbered n) hne fun c hc => isDigit_of_mem_toString hc
  -- The identifier of the name alone is too short to have the digits behind it.
  have hshort := halone ((congrArg endsInDigit h).trans hends)
  have hlong : (snakeIdent wanted).toList.length =
      (snakeIdent (candidate wanted (n + 1))).toList.length :=
    congrArg (fun s => s.toList.length) h
  have hpos := List.length_pos_of_ne_nil hne
  rw [hnumbered, List.length_append] at hlong
  omega

/-! The mark of a raw identifier. -/

theorem mark_notMem_snakeCase (s : List Char) : '#' ∉ Text.snakeCase s := by
  intro h
  have hmem : '#' ∈ (snakeCase (String.ofList s)).toList := by
    rwa [snakeCase, String.toList_ofList, String.toList_ofList]
  exact absurd (isStemChar_of_mem_snakeCase hmem) (by decide)

theorem mark_notMem_guardDigit {s : List Char} (h : '#' ∉ s) : '#' ∉ guardDigit s := by
  rw [guardDigit]
  split
  · rw [List.mem_cons, not_or]
    exact ⟨by decide, h⟩
  · exact h

theorem plainIdent_of_notMem {s : String} (h : '#' ∉ s.toList) : plainIdent s = s := by
  rw [plainIdent]
  split
  · next heq =>
    rw [heq] at h
    simp at h
  · rfl

/-- What was written so that it is no keyword can be told from what is left without the mark. -/
theorem escapeKeyword_plainIdent_escapeKeyword {s : String} (h : '#' ∉ s.toList) :
    escapeKeyword (plainIdent (escapeKeyword s)) = escapeKeyword s := by
  have hpath : ∀ k ∈ pathKeywords, escapeKeyword (plainIdent (escapeKeyword k)) =
      escapeKeyword k := by
    decide
  have hraw : ∀ k ∈ rawableKeywords, escapeKeyword (plainIdent (escapeKeyword k)) =
      escapeKeyword k := by
    decide
  by_cases hp : s ∈ pathKeywords
  · exact hpath s hp
  · by_cases hr : s ∈ rawableKeywords
    · exact hraw s hr
    · have hsame : escapeKeyword s = s := by
        rw [escapeKeyword, if_neg (List.contains_iff_mem.not.mpr hp),
          if_neg (List.contains_iff_mem.not.mpr hr)]
      rw [hsame, plainIdent_of_notMem h, hsame]

/-- The identifier of a name is its plain one, escaped where that is a keyword. -/
theorem escapeKeyword_plainIdent (name : String) :
    escapeKeyword (plainIdent (snakeIdent name)) = snakeIdent name := by
  rw [snakeIdent_eq]
  split
  · decide
  · refine escapeKeyword_plainIdent_escapeKeyword ?_
    rw [String.toList_ofList]
    exact mark_notMem_guardDigit (mark_notMem_snakeCase name.toList)

/-- Two identifiers that are the same without the mark of a raw one are the same. -/
theorem snakeIdent_eq_of_plainIdent_eq {a b : String}
    (h : plainIdent (snakeIdent a) = plainIdent (snakeIdent b)) : snakeIdent a = snakeIdent b := by
  rw [← escapeKeyword_plainIdent a, h, escapeKeyword_plainIdent]

end Name

end ApiForge
