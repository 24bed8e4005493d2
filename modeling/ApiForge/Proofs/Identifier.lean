import ApiForge.Code.Token
import ApiForge.Proofs.SnakeIdent

/-!
The identifiers of names of ASCII characters. Their words hold small letters and digits only and
none of them is empty, so what the casing leaves is a word of the language, and one that is no
keyword once it is escaped. Main statement: `isIdentifier_snakeIdent`.
-/

namespace ApiForge

namespace Text

theorem ne_nil_of_mem_humps {seen : Casing} {read rest word : List Char}
    (h : word ∈ humps seen read rest) (hsome : read ≠ [] ∨ rest ≠ [])
    (hseen : seen = .upper → read ≠ []) : word ≠ [] := by
  induction seen, read, rest using humps.induct with
  | case1 seen read =>
    rw [humps, List.mem_singleton] at h
    simpa [h] using hsome
  | case2 seen read d =>
    rw [humps, List.mem_singleton] at h
    simp [h]
  | case3 seen read d e rest hends ih =>
    rw [humps, if_pos hends] at h
    rcases List.mem_cons.mp h with rfl | h
    · simp
    · exact ih h (.inr (List.cons_ne_nil e rest)) fun h => by cases h
  | case4 seen read d e rest hends hstarts ih =>
    rw [humps, if_neg hends, if_pos hstarts] at h
    rcases List.mem_cons.mp h with rfl | h
    · simpa using hseen hstarts.1
    · exact ih h (.inl (List.cons_ne_nil d [])) fun h => by cases h
  | case5 seen read d e rest hends hstarts ih =>
    rw [humps, if_neg hends, if_neg hstarts] at h
    exact ih h (.inl (List.cons_ne_nil d read)) fun _ => List.cons_ne_nil d read

theorem ne_nil_of_mem_words {s word : List Char} (h : word ∈ words s) : word ≠ [] := by
  obtain ⟨piece, _, hword⟩ := List.mem_flatMap.mp h
  split at hword
  · cases hword
  · next hpiece =>
    have hne : piece ≠ [] := by simpa using hpiece
    exact ne_nil_of_mem_humps hword (.inr hne) fun h => by cases h

def isAscii (c : Char) : Bool := c.toNat < 128

/-- A small letter or a digit, of ASCII. -/
def isPlain (c : Char) : Bool := c.isLower || c.isDigit

theorem isAscii_of_isPlain {c : Char} (h : isPlain c = true) : isAscii c = true := by
  rw [isPlain, Bool.or_eq_true] at h
  rw [isAscii, decide_eq_true_eq]
  rcases h with h | h
  · have hle : c.toNat ≤ 122 := ((Name.between_iff c 'a' 'z').mp h).2
    omega
  · exact (toNat_lt_of_isDigit h).trans (by decide)

theorem isPlain_of_mem_toLowercase {c d : Char} (hc : isAscii c = true)
    (halphanumeric : isAlphanumeric c = true) (hd : d ∈ toLowercase c) : isPlain d = true := by
  have hall : ∀ c : Char, c.toNat < 128 → isAlphanumeric c = true →
      (toLowercase c).all isPlain = true :=
    forall_toNat_lt (by decide)
  exact List.all_eq_true.mp (hall c (of_decide_eq_true hc) halphanumeric) d hd

theorem toLowercase_ne_nil (c : Char) : toLowercase c ≠ [] := by
  rw [toLowercase]
  rcases CaseShift.apply_cases toLowerShifts toLowerTexts c with
    hsame | ⟨s, -, -, hmoved⟩ | ⟨codes, hmem, htext⟩
  · rw [hsame]
    exact List.cons_ne_nil _ _
  · rw [hmoved]
    exact List.cons_ne_nil _ _
  · have hall : ∀ p ∈ toLowerTexts, p.2 ≠ [] := by decide
    have hcodes : codes ≠ [] := hall (c.toNat, codes) hmem
    simpa [htext] using hcodes

theorem lowerWord_ne_nil {w : List Char} (h : w ≠ []) : lowerWord w ≠ [] := by
  obtain ⟨c, rest, rfl⟩ := List.exists_cons_of_ne_nil h
  have hlength := (lowerWord_like (c :: rest)).1
  have hpos := List.length_pos_of_ne_nil (toLowercase_ne_nil c)
  rw [List.flatMap_cons, List.length_append] at hlength
  refine List.ne_nil_of_length_pos ?_
  omega

theorem isPlain_of_mem_lowerWord {w : List Char} (hw : ∀ c ∈ w, isAscii c = true)
    (halphanumeric : ∀ c ∈ w, isAlphanumeric c = true) {d : Char} (hd : d ∈ lowerWord w) :
    isPlain d = true := by
  induction w with
  | nil => cases hd
  | cons c w ih =>
    obtain ⟨hc, hw⟩ := List.forall_mem_cons.mp hw
    obtain ⟨hcalphanumeric, halphanumeric⟩ := List.forall_mem_cons.mp halphanumeric
    cases w with
    | nil =>
      have hsigma : c ≠ 'Σ' := by
        rintro rfl
        revert hc
        decide
      rw [lowerWord, if_neg hsigma] at hd
      exact isPlain_of_mem_toLowercase hc hcalphanumeric hd
    | cons e w =>
      rw [lowerWord, List.mem_append] at hd
      · rcases hd with hd | hd
        · exact isPlain_of_mem_toLowercase hc hcalphanumeric hd
        · exact ih hw halphanumeric hd
      · exact List.cons_ne_nil e w

theorem head?_intercalate {separator : Char} {ls : List (List Char)} (h : ∀ l ∈ ls, l ≠ []) :
    ([separator].intercalate ls).head? = ls.head?.bind List.head? := by
  cases ls with
  | nil => rfl
  | cons l ls =>
    obtain ⟨c, rest, rfl⟩ := List.exists_cons_of_ne_nil (h l List.mem_cons_self)
    cases ls with
    | nil => simp
    | cons m ls => simp [List.intercalate_cons_cons]

/-- The snake case of ASCII characters holds small letters, digits and underscores, and does not
begin with an underscore. -/
theorem snakeCase_of_ascii {s : List Char} (hs : ∀ c ∈ s, isAscii c = true) :
    (∀ c ∈ snakeCase s, isPlain c = true ∨ c = '_') ∧
      ∀ c ∈ (snakeCase s).head?, isPlain c = true := by
  have hplain : ∀ w ∈ (words s).map lowerWord, ∀ c ∈ w, isPlain c = true := by
    intro w hw c hc
    obtain ⟨word, hword, rfl⟩ := List.mem_map.mp hw
    refine isPlain_of_mem_lowerWord (fun d hd => hs d (of_mem_words hword hd).1) ?_ hc
    exact fun d hd => isAlphanumeric_of_mem_words hword hd
  have hne : ∀ w ∈ (words s).map lowerWord, w ≠ [] := by
    intro w hw
    obtain ⟨word, hword, rfl⟩ := List.mem_map.mp hw
    exact lowerWord_ne_nil (ne_nil_of_mem_words hword)
  refine ⟨fun c hc => ?_, fun c hc => ?_⟩
  · rcases mem_intercalate hc with rfl | ⟨w, hw, hc⟩
    · exact .inr rfl
    · exact .inl (hplain w hw c hc)
  · rw [snakeCase, head?_intercalate hne, Option.mem_def, Option.bind_eq_some_iff] at hc
    obtain ⟨w, hw, hc⟩ := hc
    exact hplain w (List.mem_of_head? hw) c (List.mem_of_head? hc)

end Text

namespace Name

open Text

/-- An identifier of the code: a name that is no keyword, or a keyword other than those of paths
with the mark that makes it an identifier. -/
inductive IsIdentifier : String → Prop where
  | plain {s : String} (isName : Code.isName s.toList = true)
      (notKeyword : s ∉ rawableKeywords ++ pathKeywords) : IsIdentifier s
  | raw {word : String} (isWord : Code.isWord word.toList = true)
      (keyword : word ∈ rawableKeywords) (notPath : word ∉ pathKeywords) :
      IsIdentifier (rawMark ++ word)

theorem isIdentifier_escapeKeyword_of_mem {s : String}
    (h : s ∈ rawableKeywords ++ pathKeywords) : IsIdentifier (escapeKeyword s) := by
  by_cases hp : s ∈ pathKeywords
  · have hall : ∀ k ∈ pathKeywords, Code.isName (escapeKeyword k).toList = true ∧
        escapeKeyword k ∉ rawableKeywords ++ pathKeywords := by
      decide
    exact .plain (hall s hp).1 (hall s hp).2
  · have hr : s ∈ rawableKeywords := (List.mem_append.mp h).resolve_right hp
    have hall : ∀ k ∈ rawableKeywords, Code.isWord k.toList = true := by decide
    rw [escapeKeyword, if_neg (List.contains_iff_mem.not.mpr hp),
      if_pos (List.contains_iff_mem.mpr hr)]
    exact .raw (hall s hr) hr hp

theorem startsWord_of_isLower {c : Char} (h : c.isLower = true ∨ c = '_') :
    Code.startsWord c = true := by
  have hall : ∀ c : Char, c.toNat < 128 → c.isLower = true ∨ c = '_' →
      Code.startsWord c = true :=
    forall_toNat_lt (by decide)
  have hascii : isAscii c = true := by
    rcases h with h | rfl
    · exact isAscii_of_isPlain (by rw [isPlain, h, Bool.true_or])
    · decide
  exact hall c (of_decide_eq_true hascii) h

theorem continuesIdentifier_of_isPlain {c : Char} (h : isPlain c = true ∨ c = '_') :
    continuesIdentifier c = true := by
  have hall : ∀ c : Char, c.toNat < 128 → isPlain c = true ∨ c = '_' →
      continuesIdentifier c = true :=
    forall_toNat_lt (by decide)
  have hascii : isAscii c = true := by
    rcases h with h | rfl
    · exact isAscii_of_isPlain h
    · decide
  exact hall c (of_decide_eq_true hascii) h

/-- A text of small letters, digits and underscores that begins with no digit and is no bare
underscore is spelled as an identifier. -/
theorem isIdentifier_escapeKeyword {c : Char} {rest : List Char}
    (hc : c.isLower = true ∨ c = '_' ∧ rest ≠ [])
    (hrest : ∀ d ∈ rest, isPlain d = true ∨ d = '_') :
    IsIdentifier (escapeKeyword (String.ofList (c :: rest))) := by
  by_cases hk : String.ofList (c :: rest) ∈ rawableKeywords ++ pathKeywords
  · exact isIdentifier_escapeKeyword_of_mem hk
  · have hboth := List.mem_append.not.mp hk
    rw [not_or] at hboth
    have hkeywords : ∀ k ∈ Code.keywords, k ∈ rawableKeywords ++ pathKeywords := by
      decide
    have hword : Code.isWord (c :: rest) = true := by
      rw [Code.isWord, startsWord_of_isLower (hc.imp_right And.left), Bool.true_and,
        List.all_eq_true]
      exact fun d hd => continuesIdentifier_of_isPlain (hrest d hd)
    have hkeyword : Code.isKeyword (c :: rest) = false := by
      rw [Code.isKeyword, ← Bool.not_eq_true, List.contains_iff_mem]
      exact fun hmem => hk (hkeywords _ hmem)
    have hbare : c :: rest ≠ ['_'] := by
      rintro h
      obtain ⟨rfl, rfl⟩ := List.cons.inj h
      rcases hc with hlower | ⟨-, hne⟩
      · cases hlower
      · exact hne rfl
    rw [escapeKeyword, if_neg (List.contains_iff_mem.not.mpr hboth.2),
      if_neg (List.contains_iff_mem.not.mpr hboth.1)]
    refine .plain ?_ hk
    rw [String.toList_ofList, Code.isName, hword, hkeyword]
    simpa using hbare

theorem isIdentifier_snakeIdent {name : String} (h : ∀ c ∈ name.toList, isAscii c = true) :
    IsIdentifier (snakeIdent name) := by
  obtain ⟨hchars, hhead⟩ := snakeCase_of_ascii h
  rw [snakeIdent_eq]
  split
  · exact .plain (by decide) (by decide)
  · next hsome =>
    obtain ⟨c, rest, heq⟩ := List.exists_cons_of_ne_nil hsome
    rw [heq] at hchars hhead ⊢
    have hc : isPlain c = true := hhead c rfl
    rw [guardDigit]
    split
    · exact isIdentifier_escapeKeyword (.inr ⟨rfl, List.cons_ne_nil c rest⟩) hchars
    · next hdigit =>
      have hlower : c.isLower = true := by
        rw [isPlain, Bool.or_eq_true] at hc
        exact hc.resolve_right hdigit
      exact isIdentifier_escapeKeyword (.inl hlower) fun d hd =>
        hchars d (List.mem_cons_of_mem c hd)

end Name

end ApiForge
