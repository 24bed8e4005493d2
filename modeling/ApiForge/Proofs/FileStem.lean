import ApiForge.Name.FileStem
import ApiForge.Proofs.Capital
import ApiForge.Proofs.FreshName
import Mathlib.Order.Nat

/-!
What the stem of a file can be. The words of a name hold letters and numbers only, and a capital
becomes small without leaving them or leaves the first 128 characters, so whatever characters the
names of units hold, a stem has no slash, no dot and no line break in it, and it is never that of
the index. Main statements: `isStem_of_mem_moduleStems` and `nodup_values_moduleStems`.
-/

namespace ApiForge

namespace Name

open Text

/-- Whether a character may stand in a file stem: among the first 128 the letters, the digits and
the underscore, and all behind them. -/
def isStemChar (c : Char) : Bool := c.isAlphanum || c == '_' || 128 ≤ c.toNat

def strayRuns : List CodeRun :=
  [⟨0x0, 0x2F, 1⟩, ⟨0x3A, 0x40, 1⟩, ⟨0x5B, 0x5E, 1⟩, ⟨0x60, 0x60, 1⟩, ⟨0x7B, 0x7F, 1⟩]

def surrogateRuns : List CodeRun := [⟨0xD800, 0xDFFF, 1⟩]

theorem between_iff (c low high : Char) :
    (decide (c.val ≥ low.val) && decide (c.val ≤ high.val)) = true ↔
      low.toNat ≤ c.toNat ∧ c.toNat ≤ high.toNat := by
  rw [Bool.and_eq_true, decide_eq_true_eq, decide_eq_true_eq]
  rfl

theorem isStemChar_iff {c : Char} :
    isStemChar c = true ↔ (65 ≤ c.toNat ∧ c.toNat ≤ 90) ∨ (97 ≤ c.toNat ∧ c.toNat ≤ 122) ∨
      (48 ≤ c.toNat ∧ c.toNat ≤ 57) ∨ c.toNat = 95 ∨ 128 ≤ c.toNat := by
  have halpha : c.isAlpha = (c.isUpper || c.isLower) := rfl
  have hupper : c.isUpper = true ↔ 65 ≤ c.toNat ∧ c.toNat ≤ 90 :=
    ⟨fun h => of_decide_eq_true h, fun h => decide_eq_true h⟩
  have hlower : c.isLower = true ↔ 97 ≤ c.toNat ∧ c.toNat ≤ 122 := between_iff c 'a' 'z'
  have hdigit : c.isDigit = true ↔ 48 ≤ c.toNat ∧ c.toNat ≤ 57 := between_iff c '0' '9'
  have hunderscore : c = '_' ↔ c.toNat = 95 := by
    rw [Char.ext_iff, ← UInt32.toNat_inj]
    rfl
  simp only [isStemChar, Char.isAlphanum, halpha, Bool.or_eq_true, decide_eq_true_eq, beq_iff_eq,
    hupper, hlower, hdigit, hunderscore, or_assoc]

theorem isStemChar_of_not_covers {c : Char} (h : CodeRun.covers strayRuns c.toNat = false) :
    isStemChar c = true := by
  have hsmall : ∀ n < 128, CodeRun.covers strayRuns n = false →
      (65 ≤ n ∧ n ≤ 90) ∨ (97 ≤ n ∧ n ≤ 122) ∨ (48 ≤ n ∧ n ≤ 57) ∨ n = 95 := by
    decide
  rw [isStemChar_iff]
  by_cases hc : c.toNat < 128
  · have hplain := hsmall c.toNat hc h
    omega
  · omega

theorem isStemChar_of_isAlphanumeric {c : Char} (h : isAlphanumeric c = true) :
    isStemChar c = true := by
  have hsmall : ∀ n < 128, CodeRun.covers alphanumericRuns n = true →
      CodeRun.covers strayRuns n = false := by
    decide
  by_cases hc : c.toNat < 128
  · exact isStemChar_of_not_covers (hsmall c.toNat hc h)
  · exact isStemChar_iff.mpr (by omega)

theorem toNat_ofNat_of_not_covers {n : Nat} (hn : n < 0x110000)
    (h : CodeRun.covers surrogateRuns n = false) : (Char.ofNat n).toNat = n := by
  have hvalid : n.isValidChar := by
    simp only [surrogateRuns, CodeRun.covers, CodeRun.holds, Nat.mod_one] at h
    unfold Nat.isValidChar
    split_ifs at h
    · omega
    · simp at h
      omega
    · omega
  rw [Char.ofNat, dif_pos hvalid]
  rfl

/-- The shifts to small letters lead to characters, and to none that is in no stem. -/
theorem toLowerShifts_avoid {s : CaseShift} (h : s ∈ toLowerShifts) :
    s.avoids strayRuns = true ∧ s.avoids surrogateRuns = true ∧ s.image.last < 0x110000 := by
  have hstray : toLowerShifts.all (CaseShift.avoids strayRuns) = true := by decide
  have hsurrogate : toLowerShifts.all (CaseShift.avoids surrogateRuns) = true := by decide
  have hlast : toLowerShifts.all (fun s => decide (s.image.last < 0x110000)) = true := by
    decide
  exact ⟨List.all_eq_true.mp hstray s h, List.all_eq_true.mp hsurrogate s h,
    of_decide_eq_true (List.all_eq_true.mp hlast s h)⟩

theorem isStemChar_of_shift {s : CaseShift} (h : s ∈ toLowerShifts) {n : Nat}
    (hn : s.run.holds n = true) : isStemChar (Char.ofNat (n + s.distance).toNat) = true := by
  obtain ⟨hstray, hsurrogate, hlast⟩ := toLowerShifts_avoid h
  have hstart : 0 ≤ s.run.first + s.distance := by
    rw [CaseShift.avoids, Bool.and_eq_true, decide_eq_true_eq] at hstray
    exact hstray.1
  have hbound := (CodeRun.holds_iff.mp (CaseShift.image_holds hstart hn)).2.1
  have hcode : (Char.ofNat (n + s.distance).toNat).toNat = (n + s.distance).toNat :=
    toNat_ofNat_of_not_covers (hbound.trans_lt hlast) (CaseShift.not_covers_of_avoids hsurrogate hn)
  apply isStemChar_of_not_covers
  rw [hcode]
  exact CaseShift.not_covers_of_avoids hstray hn

/-- A letter or a number has a small form that may stand in a stem. -/
theorem isStemChar_of_mem_toLowercase {c d : Char} (hc : isAlphanumeric c = true)
    (hd : d ∈ toLowercase c) : isStemChar d = true := by
  rw [toLowercase] at hd
  rcases CaseShift.apply_cases toLowerShifts toLowerTexts c with
    hsame | ⟨s, hs, hn, hmoved⟩ | ⟨codes, hmem, htext⟩
  · rw [hsame, List.mem_singleton] at hd
    rw [hd]
    exact isStemChar_of_isAlphanumeric hc
  · rw [hmoved, List.mem_singleton] at hd
    rw [hd]
    exact isStemChar_of_shift hs hn
  · have hall : toLowerTexts.all (fun p => p.2.all fun n => isStemChar (Char.ofNat n)) = true := by
      decide
    rw [htext] at hd
    obtain ⟨n, hn, rfl⟩ := List.mem_map.mp hd
    exact List.all_eq_true.mp (List.all_eq_true.mp hall _ hmem) n hn

end Name

namespace Text

theorem mem_pieces {separates : Char → Bool} {s piece : List Char} (h : piece ∈ pieces separates s)
    {c : Char} (hc : c ∈ piece) : c ∈ s ∧ separates c = false := by
  induction s generalizing piece with
  | nil =>
    rw [pieces, List.mem_singleton] at h
    subst h
    cases hc
  | cons d s ih =>
    rw [pieces] at h
    split at h
    · rcases List.mem_cons.mp h with rfl | h
      · cases hc
      · exact (ih h hc).imp_left (List.mem_cons_of_mem d)
    · next hd =>
      -- The character joins the first piece of the rest.
      have hjoined : piece = [d] ∨ (∃ first ∈ pieces separates s, piece = d :: first) ∨
          piece ∈ pieces separates s := by
        split at h
        · exact .inl (List.mem_singleton.mp h)
        · next first more heq =>
          rw [heq]
          rcases List.mem_cons.mp h with rfl | h
          · exact .inr (.inl ⟨first, List.mem_cons_self, rfl⟩)
          · exact .inr (.inr (List.mem_cons_of_mem first h))
      have hself : separates d = false := Bool.eq_false_iff.mpr hd
      rcases hjoined with rfl | ⟨first, hfirst, rfl⟩ | hpiece
      · rw [List.mem_singleton.mp hc]
        exact ⟨List.mem_cons_self, hself⟩
      · rcases List.mem_cons.mp hc with rfl | hc
        · exact ⟨List.mem_cons_self, hself⟩
        · exact (ih hfirst hc).imp_left (List.mem_cons_of_mem d)
      · exact (ih hpiece hc).imp_left (List.mem_cons_of_mem d)

theorem mem_humps {seen : Casing} {read rest word : List Char} (h : word ∈ humps seen read rest)
    {c : Char} (hc : c ∈ word) : c ∈ read ∨ c ∈ rest := by
  induction seen, read, rest using humps.induct with
  | case1 seen read =>
    rw [humps, List.mem_singleton] at h
    simpa [h] using hc
  | case2 seen read d =>
    rw [humps, List.mem_singleton] at h
    simpa [h, or_comm] using hc
  | case3 seen read d e rest hends ih =>
    rw [humps, if_pos hends] at h
    rcases List.mem_cons.mp h with rfl | h
    · have hread : c ∈ d :: read := List.mem_reverse.mp hc
      grind
    · have hrest := ih h
      grind
  | case4 seen read d e rest hends hstarts ih =>
    rw [humps, if_neg hends, if_pos hstarts] at h
    rcases List.mem_cons.mp h with rfl | h
    · exact .inl (List.mem_reverse.mp hc)
    · have hrest := ih h
      grind
  | case5 seen read d e rest hends hstarts ih =>
    rw [humps, if_neg hends, if_neg hstarts] at h
    have hrest := ih h
    grind

theorem of_mem_words {s word : List Char} (h : word ∈ words s) {c : Char} (hc : c ∈ word) :
    c ∈ s ∧ isAlphanumeric c = true := by
  obtain ⟨piece, hpiece, hword⟩ := List.mem_flatMap.mp h
  split at hword
  · cases hword
  · rcases mem_humps hword hc with hread | hmem
    · cases hread
    · obtain ⟨hs, hseparates⟩ := mem_pieces hpiece hmem
      exact ⟨hs, by simpa using hseparates⟩

theorem isAlphanumeric_of_mem_words {s word : List Char} (h : word ∈ words s) {c : Char}
    (hc : c ∈ word) : isAlphanumeric c = true :=
  (of_mem_words h hc).2

theorem mem_lowerWord {word : List Char} {d : Char} (h : d ∈ lowerWord word) :
    d = 'ς' ∨ ∃ c ∈ word, d ∈ toLowercase c := by
  induction word with
  | nil => cases h
  | cons c rest ih =>
    cases rest with
    | nil =>
      rw [lowerWord] at h
      split at h
      · exact .inl (List.mem_singleton.mp h)
      · exact .inr ⟨c, List.mem_cons_self, h⟩
    | cons e rest =>
      rw [lowerWord, List.mem_append] at h
      · rcases h with h | h
        · exact .inr ⟨c, List.mem_cons_self, h⟩
        · exact (ih h).imp_right fun ⟨a, ha, hd⟩ => ⟨a, List.mem_cons_of_mem c ha, hd⟩
      · exact List.cons_ne_nil e rest

theorem mem_intercalate {separator c : Char} {ls : List (List Char)}
    (h : c ∈ [separator].intercalate ls) : c = separator ∨ ∃ l ∈ ls, c ∈ l := by
  induction ls with
  | nil => cases h
  | cons l ls ih =>
    cases ls with
    | nil => exact .inr ⟨l, List.mem_cons_self, by simpa using h⟩
    | cons m ls =>
      rw [List.intercalate_cons_cons, List.append_assoc, List.mem_append] at h
      rcases h with h | h
      · exact .inr ⟨l, List.mem_cons_self, h⟩
      · rcases List.mem_cons.mp h with h | h
        · exact .inl h
        · exact (ih h).imp_right fun ⟨k, hk, hc⟩ => ⟨k, List.mem_cons_of_mem l hk, hc⟩

end Text

namespace Name

open Text

theorem isStemChar_of_mem_snakeCase {name : String} {c : Char} (h : c ∈ (snakeCase name).toList) :
    isStemChar c = true := by
  rw [snakeCase, String.toList_ofList, Text.snakeCase] at h
  rcases mem_intercalate h with rfl | ⟨small, hsmall, hc⟩
  · decide
  · obtain ⟨word, hword, rfl⟩ := List.mem_map.mp hsmall
    rcases mem_lowerWord hc with rfl | ⟨d, hd, hc⟩
    · decide
    · exact isStemChar_of_mem_toLowercase (isAlphanumeric_of_mem_words hword hd) hc

/-- A text that can be the name of a module and of its file, and is not that of the index. -/
structure IsStem (s : String) : Prop where
  ne_empty : s ≠ ""
  isStemChar : ∀ c ∈ s.toList, isStemChar c = true
  ne_index : s ≠ "mod"

theorem isStem_append {s suffix : String} (hs : ∀ c ∈ s.toList, isStemChar c = true)
    (hsuffix : ∀ c ∈ suffix.toList, isStemChar c = true ∧ c ≠ 'd') (hne : suffix ≠ "") :
    IsStem (s ++ suffix) := by
  refine ⟨?_, ?_, ?_⟩
  · intro h
    exact hne (String.append_eq_empty_iff.mp h).2
  · intro c hc
    rw [String.toList_append, List.mem_append] at hc
    exact hc.elim (hs c) fun hc => (hsuffix c hc).1
  · -- The index ends in a letter that the suffix does not hold.
    intro h
    have hlast := congrArg (fun t => t.toList.getLast?) h
    have hsome : suffix.toList.getLast? ≠ none := by
      simpa using hne
    obtain ⟨c, hc⟩ := Option.ne_none_iff_exists'.mp hsome
    rw [String.toList_append, List.getLast?_append, hc] at hlast
    have hd : c = 'd' := by simpa using hlast
    exact (hsuffix c (List.mem_of_getLast? hc)).2 hd

theorem isStem_moduleFileName (name : String) : IsStem (moduleFileName name) := by
  rw [moduleFileName]
  have hchars : ∀ c ∈ (snakeCase name).toList, isStemChar c = true :=
    fun c hc => isStemChar_of_mem_snakeCase hc
  split
  · exact ⟨by decide, by simp [fallbackKey, isStemChar], by decide⟩
  · next hne =>
    split
    · exact isStem_append hchars (by simp [isStemChar]) (by decide)
    · next hword =>
      refine ⟨by simpa using hne, hchars, ?_⟩
      intro h
      rw [h] at hword
      exact hword (by decide)

theorem isStem_candidate {wanted : String} (h : IsStem wanted) (n : Nat) :
    IsStem (candidate wanted n) := by
  cases n with
  | zero => exact h
  | succ n =>
    refine isStem_append h.isStemChar ?_ ?_
    · intro c hc
      have hdigit := isDigit_of_mem_toString hc
      refine ⟨by simp [isStemChar, Char.isAlphanum, hdigit], ?_⟩
      rintro rfl
      cases hdigit
    · intro h
      exact toList_toString_ne_nil (n + 2) (by rw [h]; rfl)

theorem keys_moduleStems (names : List String) :
    (moduleStems names).map Prod.fst = names.eraseDups := by
  rw [moduleStems]
  exact List.map_fst_zip (by rw [length_freshAll, List.length_map])

theorem values_moduleStems (names : List String) :
    (moduleStems names).map Prod.snd = freshAll [] (names.eraseDups.map moduleFileName) := by
  rw [moduleStems]
  exact List.map_snd_zip (by rw [length_freshAll, List.length_map])

theorem nodup_values_moduleStems (names : List String) :
    ((moduleStems names).map Prod.snd).Nodup := by
  rw [values_moduleStems]
  exact (nodup_freshAll [] _).1

theorem isStem_of_mem_moduleStems {names : List String} {stem : String}
    (h : stem ∈ (moduleStems names).map Prod.snd) : IsStem stem := by
  rw [values_moduleStems] at h
  obtain ⟨wanted, hwanted, n, rfl⟩ := exists_candidate_of_mem_freshAll h
  obtain ⟨name, _, rfl⟩ := List.mem_map.mp hwanted
  exact isStem_candidate (isStem_moduleFileName name) n

end Name

end ApiForge
