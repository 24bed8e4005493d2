import ApiForge.Name.Key
import ApiForge.Proofs.CodeBits

/-!
What a letter turns into when it becomes a capital, over all characters. The tables move runs of
code points. Against a class of a few runs they are compared at their ends and by their parity
instead of point by point, and against a whole table by the bits of its number.
Main statement: a letter either has no capital and stays, or its capital begins with no small letter
and holds no mark that separates names (`toUppercase_cases`).
-/

namespace ApiForge

namespace Text

namespace CodeRun

theorem holds_of_covers {runs : List CodeRun} {n : Nat} (h : covers runs n = true) :
    ∃ r ∈ runs, r.holds n = true := by
  induction runs with
  | nil => cases h
  | cons r rest ih =>
    rw [covers] at h
    split at h
    · cases h
    · split at h
      · exact ⟨r, List.mem_cons_self, h⟩
      · obtain ⟨q, hq, hn⟩ := ih h
        exact ⟨q, List.mem_cons_of_mem r hq, hn⟩

/-- Whether all code points of a run have the parity of the first one. -/
def isSparse (r : CodeRun) : Bool := r.step == 2 || r.first == r.last

/-- Whether two runs have no code point in common, told by their ends and their parity. -/
def apart (a b : CodeRun) : Bool :=
  Nat.blt a.last b.first || Nat.blt b.last a.first ||
    (a.isSparse && b.isSparse && (a.first + b.first) % 2 == 1)

theorem mod_two_of_isSparse {r : CodeRun} {n : Nat} (hr : r.isSparse = true)
    (hn : r.holds n = true) : n % 2 = r.first % 2 := by
  obtain ⟨hfirst, hlast, hstep⟩ := holds_iff.mp hn
  rw [isSparse, Bool.or_eq_true, beq_iff_eq, beq_iff_eq] at hr
  rcases hr with hr | hr
  · rw [hr] at hstep
    omega
  · omega

theorem not_holds_of_apart {a b : CodeRun} {n : Nat} (h : a.apart b = true)
    (ha : a.holds n = true) : b.holds n = false := by
  rw [← Bool.not_eq_true]
  intro hb
  obtain ⟨hfirst, hlast, _⟩ := holds_iff.mp ha
  obtain ⟨hfirst', hlast', _⟩ := holds_iff.mp hb
  simp only [apart, Bool.or_eq_true, Bool.and_eq_true, Nat.blt_eq, beq_iff_eq] at h
  rcases h with (h | h) | ⟨⟨hsa, hsb⟩, hodd⟩
  · omega
  · omega
  · have hna := mod_two_of_isSparse hsa ha
    have hnb := mod_two_of_isSparse hsb hb
    omega

end CodeRun

namespace CaseShift

/-- The run that a shift moves its own run to. -/
def image (s : CaseShift) : CodeRun :=
  ⟨(s.run.first + s.distance).toNat, (s.run.last + s.distance).toNat, s.run.step⟩

def avoids (runs : List CodeRun) (s : CaseShift) : Bool :=
  decide (0 ≤ s.run.first + s.distance) && runs.all s.image.apart

theorem image_holds {s : CaseShift} {n : Nat} (hs : 0 ≤ s.run.first + s.distance)
    (hn : s.run.holds n = true) : s.image.holds (n + s.distance).toNat = true := by
  obtain ⟨hfirst, hlast, hstep⟩ := CodeRun.holds_iff.mp hn
  refine CodeRun.holds_iff.mpr ⟨?_, ?_, ?_⟩
  · simp only [image]
    omega
  · simp only [image]
    omega
  · have hdiff : (n + s.distance).toNat - (s.run.first + s.distance).toNat = n - s.run.first := by
      omega
    simp only [image, hdiff, hstep]

theorem not_covers_of_avoids {s : CaseShift} {runs : List CodeRun} {n : Nat}
    (hs : s.avoids runs = true) (hn : s.run.holds n = true) :
    CodeRun.covers runs (n + s.distance).toNat = false := by
  rw [avoids, Bool.and_eq_true, decide_eq_true_eq, List.all_eq_true] at hs
  rw [← Bool.not_eq_true]
  intro hcovers
  obtain ⟨r, hr, hholds⟩ := CodeRun.holds_of_covers hcovers
  rw [CodeRun.not_holds_of_apart (hs.2 r hr) (image_holds hs.1 hn)] at hholds
  cases hholds

/-- A character is moved by the distance of a shift that holds it, or not at all. -/
theorem distanceOf_cases (shifts : List CaseShift) (n : Nat) :
    distanceOf shifts n = 0 ∨
      ∃ s ∈ shifts, s.run.holds n = true ∧ distanceOf shifts n = s.distance := by
  induction shifts with
  | nil => exact .inl rfl
  | cons s rest ih =>
    rw [distanceOf]
    split
    · exact .inl rfl
    · split
      · next h => exact .inr ⟨s, List.mem_cons_self, h, rfl⟩
      · rcases ih with h | ⟨t, ht, hn, hd⟩
        · exact .inl h
        · exact .inr ⟨t, List.mem_cons_of_mem s ht, hn, hd⟩

/-- A character stays, is moved by a shift that holds it, or has an entry among the texts. -/
theorem apply_cases (shifts : List CaseShift) (texts : List (Nat × List Nat)) (c : Char) :
    apply shifts texts c = [c] ∨
      (∃ s ∈ shifts, s.run.holds c.toNat = true ∧
        apply shifts texts c = [Char.ofNat (c.toNat + s.distance).toNat]) ∨
      ∃ codes, (c.toNat, codes) ∈ texts ∧ apply shifts texts c = codes.map Char.ofNat := by
  rw [apply]
  rcases htext : texts.lookup c.toNat with _ | codes
  · rcases distanceOf_cases shifts c.toNat with hd | ⟨s, hs, hn, hd⟩
    · left
      simp [hd]
    · exact .inr (.inl ⟨s, hs, hn, by rw [hd]⟩)
  · refine .inr (.inr ⟨codes, ?_, rfl⟩)
    obtain ⟨before, after, heq, _⟩ := List.lookup_eq_some_iff.mp htext
    rw [heq]
    simp

end CaseShift

theorem toNat_ofNat (n : Nat) : (Char.ofNat n).toNat = n ∨ (Char.ofNat n).toNat = 0 := by
  by_cases h : n.isValidChar
  · rw [Char.ofNat, dif_pos h]
    exact .inl rfl
  · rw [Char.ofNat, dif_neg h]
    exact .inr rfl

end Text

namespace Name

open Text

/-- Whether a character is taken out of a name or cuts it. -/
def isMark (c : Char) : Bool := separatesWords c || isPunctuation c || c == '/'

def markRuns : List CodeRun := [⟨0x20, 0x20, 1⟩, ⟨0x2D, 0x2F, 1⟩, ⟨0x5F, 0x5F, 1⟩, ⟨0x7B, 0x7D, 2⟩]

theorem covers_of_isMark {c : Char} (h : isMark c = true) :
    CodeRun.covers markRuns c.toNat = true := by
  simp only [isMark, separatesWords, isPunctuation, Bool.or_eq_true, beq_iff_eq] at h
  rcases h with (((rfl | rfl) | rfl) | ((((rfl | rfl) | rfl) | rfl) | rfl)) | rfl <;> decide

def IsCapital (c : Char) : Prop := isLowercase c = false ∧ isMark c = false

theorem isCapital_of_not_covers {c : Char} (hsmall : CodeRun.covers lowercaseRuns c.toNat = false)
    (hmark : CodeRun.covers markRuns c.toNat = false) : IsCapital c := by
  refine ⟨hsmall, ?_⟩
  rw [← Bool.not_eq_true]
  intro h
  rw [covers_of_isMark h] at hmark
  cases hmark

theorem isAscending_lowercaseRuns : CodeRun.isAscending lowercaseRuns = true := by decide

theorem toUpperShifts_apart {s : CaseShift} (h : s ∈ toUpperShifts) :
    s.leadsOff (CodeRun.bitsOf lowercaseRuns) = true ∧ s.avoids markRuns = true := by
  have hsmall : toUpperShifts.all (CaseShift.leadsOff (CodeRun.bitsOf lowercaseRuns)) = true := by
    decide +kernel
  have hmark : toUpperShifts.all (CaseShift.avoids markRuns) = true := by decide +kernel
  exact ⟨List.all_eq_true.mp hsmall s h, List.all_eq_true.mp hmark s h⟩

theorem isCapital_of_shift {s : CaseShift} (h : s ∈ toUpperShifts) {n : Nat}
    (hn : s.run.holds n = true) : IsCapital (Char.ofNat (n + s.distance).toNat) := by
  obtain ⟨hsmall, hmark⟩ := toUpperShifts_apart h
  -- A number that is no character stands for the first of all, which is no letter.
  rcases toNat_ofNat (n + s.distance).toNat with hc | hc
  · apply isCapital_of_not_covers
    · rw [hc]
      exact CaseShift.not_covers_of_leadsOff isAscending_lowercaseRuns hsmall hn
    · rw [hc]
      exact CaseShift.not_covers_of_avoids hmark hn
  · apply isCapital_of_not_covers
    · rw [hc]
      rfl
    · rw [hc]
      rfl

def isCapitalText : List Nat → Bool
  | [] => false
  | head :: rest =>
    !isLowercase (Char.ofNat head) && (head :: rest).all fun n => !isMark (Char.ofNat n)

theorem texts_of_mem {p : Nat × List Nat} (h : p ∈ toUpperTexts) :
    ∃ head rest, p.2 = head :: rest ∧ isLowercase (Char.ofNat head) = false ∧
      ∀ n ∈ p.2, isMark (Char.ofNat n) = false := by
  have hall : toUpperTexts.all (fun p => isCapitalText p.2) = true := by
    decide
  have hp := List.all_eq_true.mp hall p h
  rcases hcodes : p.2 with _ | ⟨head, rest⟩
  · rw [hcodes] at hp
    cases hp
  · rw [hcodes] at hp
    rw [isCapitalText, Bool.and_eq_true, Bool.not_eq_true', List.all_eq_true] at hp
    refine ⟨head, rest, rfl, hp.1, fun n hn => ?_⟩
    simpa using hp.2 n hn

/-- A letter has no capital, or its capital begins with no small letter and holds no mark. -/
theorem toUppercase_cases (c : Char) :
    toUppercase c = [c] ∨
      ∃ head rest, toUppercase c = head :: rest ∧ isLowercase head = false ∧
        ∀ d ∈ toUppercase c, isMark d = false := by
  rw [toUppercase]
  rcases CaseShift.apply_cases toUpperShifts toUpperTexts c with
    hsame | ⟨s, hs, hn, hmoved⟩ | ⟨codes, hmem, htext⟩
  · exact .inl hsame
  · right
    obtain ⟨hsmall, hmark⟩ := isCapital_of_shift hs hn
    refine ⟨Char.ofNat (c.toNat + s.distance).toNat, [], hmoved, hsmall, ?_⟩
    rw [hmoved]
    exact List.forall_mem_singleton.mpr hmark
  · right
    obtain ⟨head, rest, hcodes, hsmall, hmarks⟩ := texts_of_mem hmem
    dsimp only at hcodes hmarks
    rw [htext]
    exact ⟨Char.ofNat head, rest.map Char.ofNat, by rw [hcodes, List.map_cons], hsmall,
      List.forall_mem_map.mpr hmarks⟩

end Name

end ApiForge
