import ApiForge.Emit.Codec
import ApiForge.Proofs.Pieces
import Mathlib.Data.List.Infix

/-!
Templates that are filled. A mark has no line feed, so no occurrence of it reaches over the end of a
line, and a template is filled line by line whatever it is filled with. Marks begin with two
underscores, so a text without two of them side by side stays as it is. Main statement:
`fill_lines`.
-/

namespace ApiForge

namespace Text

variable {pattern replacement : List Char}

def occurs (pattern s : List Char) : Bool := s.tails.any pattern.isPrefixOf

theorem mem_replaceFrom {skip : Nat} {s : List Char} {c : Char}
    (h : c ∈ replaceFrom pattern replacement skip s) : c ∈ replacement ∨ c ∈ s := by
  induction s generalizing skip with
  | nil => cases h
  | cons d s ih =>
    rw [replaceFrom] at h
    split_ifs at h
    · exact (ih h).imp_right (List.mem_cons_of_mem d)
    · rcases List.mem_append.mp h with h | h
      · exact .inl h
      · exact (ih h).imp_right (List.mem_cons_of_mem d)
    · rcases List.mem_cons.mp h with rfl | h
      · exact .inr List.mem_cons_self
      · exact (ih h).imp_right (List.mem_cons_of_mem d)

theorem replaceFrom_cons_of_false {c : Char} {s : List Char}
    (h : pattern.isPrefixOf (c :: s) = false) :
    replaceFrom pattern replacement 0 (c :: s) = c :: replaceFrom pattern replacement 0 s := by
  rw [replaceFrom, if_neg (by simp), h]
  rfl

/-- A text in which the pattern does not stand stays. -/
theorem replaceAll_of_not_occurs {s : List Char} (h : occurs pattern s = false) :
    replaceAll pattern replacement s = s := by
  rw [replaceAll]
  induction s with
  | nil => rfl
  | cons c s ih =>
    rw [occurs, List.tails_cons, List.any_cons, Bool.or_eq_false_iff] at h
    rw [replaceFrom_cons_of_false h.1, ih h.2]

/-- The characters of an occurrence are passed over. -/
theorem replaceFrom_skip (s rest : List Char) :
    replaceFrom pattern replacement s.length (s ++ rest) =
      replaceFrom pattern replacement 0 rest := by
  induction s with
  | nil => rfl
  | cons c s ih =>
    rw [List.cons_append, List.length_cons, replaceFrom, if_pos (Nat.succ_ne_zero _),
      Nat.add_sub_cancel, ih]

theorem replaceAll_pattern_append (hne : pattern ≠ []) (rest : List Char) :
    replaceAll pattern replacement (pattern ++ rest) =
      replacement ++ replaceAll pattern replacement rest := by
  obtain ⟨c, more, rfl⟩ := List.exists_cons_of_ne_nil hne
  have hprefix : (c :: more).isPrefixOf (c :: (more ++ rest)) = true := by
    rw [List.isPrefixOf_iff_prefix]
    exact List.prefix_append (c :: more) rest
  rw [replaceAll, List.cons_append, replaceFrom, if_neg (by simp), if_pos hprefix,
    List.length_cons, Nat.add_sub_cancel, replaceFrom_skip]
  rfl

/-- What begins a text and has no line feed is in its first line. -/
theorem prefix_line_iff {s l rest : List Char} (hs : '\n' ∉ s) :
    s <+: l ++ '\n' :: rest ↔ s <+: l := by
  constructor
  · intro h
    rcases List.prefix_or_prefix_of_prefix h (List.prefix_append l _) with hl | ⟨t, rfl⟩
    · exact hl
    · rw [List.prefix_append_right_inj] at h
      cases t with
      | nil => simp
      | cons c t =>
        obtain ⟨rfl, -⟩ := List.cons_prefix_cons.mp h
        simp at hs
  · exact fun h => h.trans (List.prefix_append _ _)

/-- The occurrences in a text are those in its first line and those behind it. -/
theorem replaceFrom_line (hne : pattern ≠ []) (hpattern : '\n' ∉ pattern) {skip : Nat}
    {l : List Char} (hskip : skip ≤ l.length) (rest : List Char) :
    replaceFrom pattern replacement skip (l ++ '\n' :: rest) =
      replaceFrom pattern replacement skip l ++
        '\n' :: replaceFrom pattern replacement 0 rest := by
  induction l generalizing skip with
  | nil =>
    obtain rfl : skip = 0 := Nat.le_zero.mp hskip
    have hnone : pattern.isPrefixOf ('\n' :: rest) = false := by
      obtain ⟨c, more, rfl⟩ := List.exists_cons_of_ne_nil hne
      have hc : c ≠ '\n' := by
        rintro rfl
        exact hpattern List.mem_cons_self
      rw [List.isPrefixOf_cons_cons, beq_eq_false_iff_ne.mpr hc, Bool.false_and]
    rw [List.nil_append, replaceFrom_cons_of_false hnone]
    rfl
  | cons c l ih =>
    have hsame : pattern.isPrefixOf (c :: (l ++ '\n' :: rest)) = pattern.isPrefixOf (c :: l) := by
      rw [Bool.eq_iff_iff, List.isPrefixOf_iff_prefix, List.isPrefixOf_iff_prefix]
      exact prefix_line_iff (l := c :: l) hpattern
    rw [List.cons_append, replaceFrom, replaceFrom, hsame]
    split_ifs with hinside hprefix
    · exact ih (by simp only [List.length_cons] at hskip; omega)
    · have hlength := (List.isPrefixOf_iff_prefix.mp hprefix).length_le
      rw [ih (by simp only [List.length_cons] at hlength; omega), List.append_assoc]
    · rw [ih (Nat.zero_le _), List.cons_append]

/-- What stands before and behind the first occurrence of a pattern. -/
def cut? (pattern : List Char) : List Char → Option (List Char × List Char)
  | [] => none
  | c :: s =>
    if pattern.isPrefixOf (c :: s) then some ([], (c :: s).drop pattern.length)
    else (cut? pattern s).map fun (before, behind) => (c :: before, behind)

theorem append_of_cut? {s before behind : List Char} (h : cut? pattern s = some (before, behind)) :
    before ++ pattern ++ behind = s := by
  induction s generalizing before with
  | nil => cases h
  | cons c s ih =>
    rw [cut?] at h
    split at h
    · next hprefix =>
      obtain ⟨rfl, rfl⟩ := Prod.mk.inj (Option.some.inj h)
      obtain ⟨rest, hrest⟩ := List.isPrefixOf_iff_prefix.mp hprefix
      rw [List.nil_append, ← hrest, List.drop_left]
    · obtain ⟨⟨first, last⟩, hcut, heq⟩ := Option.map_eq_some_iff.mp h
      obtain ⟨rfl, rfl⟩ := Prod.mk.inj heq
      rw [List.cons_append, List.cons_append, ih hcut]

/-- The first occurrence is the first to be exchanged. -/
theorem replaceAll_of_cut? (hne : pattern ≠ []) {s before behind : List Char}
    (h : cut? pattern s = some (before, behind)) :
    replaceAll pattern replacement s =
      before ++ replacement ++ replaceAll pattern replacement behind := by
  induction s generalizing before with
  | nil => cases h
  | cons c s ih =>
    have hwhole := append_of_cut? h
    rw [cut?] at h
    split at h
    · obtain ⟨rfl, -⟩ := Prod.mk.inj (Option.some.inj h)
      rw [← hwhole, List.nil_append, replaceAll_pattern_append hne, List.nil_append]
    · next hnone =>
      obtain ⟨⟨first, last⟩, hcut, heq⟩ := Option.map_eq_some_iff.mp h
      obtain ⟨rfl, rfl⟩ := Prod.mk.inj heq
      rw [replaceAll, replaceFrom_cons_of_false (Bool.eq_false_iff.mpr hnone)]
      exact congrArg (c :: ·) (ih hcut)

/-! Marks begin with two underscores. -/

/-- Whether two underscores stand somewhere side by side. -/
def hasMark (s : List Char) : Bool := occurs ['_', '_'] s

theorem hasMark_append {s t : List Char} (hs : hasMark s = false) (ht : hasMark t = false)
    (hends : s.getLast? ≠ some '_' ∨ t.head? ≠ some '_') : hasMark (s ++ t) = false := by
  induction s with
  | nil => exact ht
  | cons c s ih =>
    rw [hasMark, occurs, List.tails_cons, List.any_cons, Bool.or_eq_false_iff] at hs
    rw [hasMark, occurs, List.cons_append, List.tails_cons, List.any_cons, Bool.or_eq_false_iff]
    cases s with
    | nil =>
      refine ⟨?_, ht⟩
      cases t with
      | nil => simp [List.isPrefixOf_cons_cons]
      | cons d t =>
        simp only [List.getLast?_singleton, List.head?_cons, ne_eq, Option.some.injEq] at hends
        simp only [List.nil_append, List.isPrefixOf_cons_cons, List.isPrefixOf_nil_left,
          Bool.and_true, Bool.and_eq_false_iff, beq_eq_false_iff_ne]
        exact hends.imp Ne.symm Ne.symm
    | cons d s =>
      refine ⟨?_, ih hs.2 (by simpa using hends)⟩
      simpa only [List.cons_append, List.isPrefixOf_cons_cons, List.isPrefixOf_nil_left] using hs.1

theorem hasMark_of_notMem {s : List Char} (h : '_' ∉ s) : hasMark s = false := by
  rw [← Bool.not_eq_true]
  intro hmark
  obtain ⟨t, ht, hprefix⟩ := List.any_eq_true.mp hmark
  have hmem : '_' ∈ t := (List.isPrefixOf_iff_prefix.mp hprefix).subset List.mem_cons_self
  exact h (((List.mem_tails t s).mp ht).subset hmem)

/-- Words joined by underscores hold no mark. -/
theorem hasMark_intercalate {ls : List (List Char)} (h : ∀ l ∈ ls, l ≠ [] ∧ '_' ∉ l) :
    hasMark (['_'].intercalate ls) = false ∧ (['_'].intercalate ls).head? ≠ some '_' ∧
      (['_'].intercalate ls).getLast? ≠ some '_' := by
  induction ls with
  | nil => exact ⟨rfl, nofun, nofun⟩
  | cons l ls ih =>
    obtain ⟨⟨hne, hfree⟩, hls⟩ := List.forall_mem_cons.mp h
    have hhead : ∀ t : List Char, (l ++ t).head? ≠ some '_' := by
      intro t ht
      rw [List.head?_append_of_ne_nil _ hne] at ht
      exact hfree (List.mem_of_head? ht)
    have hlast : l.getLast? ≠ some '_' := fun hl => hfree (List.mem_of_getLast? hl)
    cases ls with
    | nil =>
      rw [List.intercalate_singleton]
      exact ⟨hasMark_of_notMem hfree, by simpa using hhead [], hlast⟩
    | cons m ls =>
      obtain ⟨hmark, hbegin, hend⟩ := ih hls
      have hm : m ≠ [] := (hls m List.mem_cons_self).1
      rw [List.intercalate_cons_cons]
      have hfirst : hasMark (l ++ ['_']) = false :=
        hasMark_append (hasMark_of_notMem hfree) rfl (.inl hlast)
      refine ⟨hasMark_append hfirst hmark (.inr hbegin), ?_, ?_⟩
      · rw [List.append_assoc]
        exact hhead _
      · have hrest : ['_'].intercalate (m :: ls) ≠ [] := by
          cases ls <;> simp [hm]
        rwa [List.getLast?_append_of_ne_nil _ hrest]

/-- A text without marks is not filled. -/
theorem replaceAll_of_not_hasMark {s : List Char} (h : hasMark s = false) :
    replaceAll ('_' :: '_' :: pattern) replacement s = s := by
  apply replaceAll_of_not_occurs
  rw [← Bool.not_eq_true] at h ⊢
  intro hoccurs
  obtain ⟨t, ht, hprefix⟩ := List.any_eq_true.mp hoccurs
  refine h (List.any_eq_true.mpr ⟨t, ht, ?_⟩)
  rw [List.isPrefixOf_iff_prefix] at hprefix ⊢
  exact (List.prefix_append ['_', '_'] pattern).trans hprefix

end Text

namespace Emit

theorem newline_notMem_fill {mark filling l : String} (hfilling : '\n' ∉ filling.toList)
    (hl : '\n' ∉ l.toList) : '\n' ∉ (fill mark filling l).toList := by
  rw [fill, String.toList_ofList]
  exact fun h => (Text.mem_replaceFrom h).elim hfilling hl

theorem fill_of_not_occurs {mark l : String} (h : Text.occurs mark.toList l.toList = false)
    (filling : String) : fill mark filling l = l := by
  rw [fill, Text.replaceAll_of_not_occurs h, String.ofList_toList]

/-- A template is filled line by line. -/
theorem fill_lines {mark : String} (hne : mark.toList ≠ []) (hmark : '\n' ∉ mark.toList)
    (filling : String) {ls : List String} (hls : ∀ l ∈ ls, '\n' ∉ l.toList) :
    fill mark filling (lines ls) = lines (ls.map (fill mark filling)) := by
  apply String.toList_injective
  rw [fill, String.toList_ofList, Text.replaceAll]
  induction ls with
  | nil => rfl
  | cons l ls ih =>
    obtain ⟨hl, hrest⟩ := List.forall_mem_cons.mp hls
    have hcons : ∀ (l : String) (ls : List String),
        (lines (l :: ls)).toList = l.toList ++ '\n' :: (lines ls).toList := by
      intro l ls
      simp [lines_cons]
    rw [List.map_cons, hcons, hcons, ← ih hrest,
      Text.replaceFrom_line hne hmark (Nat.zero_le _)]
    rw [fill, String.toList_ofList, Text.replaceAll]

end Emit

end ApiForge
