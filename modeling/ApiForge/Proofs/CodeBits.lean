import ApiForge.Text.CodeRun
import Mathlib.Tactic.Common

/-!
Classes of characters as numbers. The bits of such a number are the code points of the class, so
what a change of case does to a class is told for a whole run of code points by shifting the number
and comparing it, and not run by run. Main statements: a table in order covers what the bits of its
number say (`covers_eq_testBit`), and a shift that keeps a class neither leads into it nor out of it
(`covers_of_keeps`).
-/

namespace ApiForge.Text

namespace CodeRun

theorem holds_iff {r : CodeRun} {n : Nat} :
    r.holds n = true ↔ r.first ≤ n ∧ n ≤ r.last ∧ (n - r.first) % r.step = 0 := by
  simp [holds, and_assoc]

def isAscending : List CodeRun → Bool
  | [] => true
  | [r] => Nat.ble r.first r.last
  | r :: q :: rest => Nat.ble r.first r.last && Nat.blt r.last q.first && isAscending (q :: rest)

theorem isAscending_cons {r : CodeRun} {runs : List CodeRun} (h : isAscending (r :: runs) = true) :
    isAscending runs = true ∧ r.first ≤ r.last ∧ ∀ q ∈ runs, r.last < q.first := by
  induction runs generalizing r with
  | nil => exact ⟨rfl, by simpa [isAscending] using h, nofun⟩
  | cons q rest ih =>
    simp only [isAscending, Bool.and_eq_true, Nat.ble_eq, Nat.blt_eq] at h
    obtain ⟨⟨hr, hlt⟩, hrest⟩ := h
    obtain ⟨-, hq, hlater⟩ := ih hrest
    refine ⟨hrest, hr, List.forall_mem_cons.mpr ⟨hlt, fun p hp => ?_⟩⟩
    have := hlater p hp
    omega

/-- In a table in order the search misses no run that holds the code point. -/
theorem covers_eq_any {runs : List CodeRun} (h : isAscending runs = true) (n : Nat) :
    covers runs n = runs.any (·.holds n) := by
  induction runs with
  | nil => rfl
  | cons r rest ih =>
    obtain ⟨hrest, hr, hlater⟩ := isAscending_cons h
    -- No later run holds what comes before its first code point.
    have hnone : n ≤ r.last → rest.any (·.holds n) = false := by
      intro hn
      rw [List.any_eq_false]
      intro q hq hholds
      have hbegins := hlater q hq
      have hfirst := (holds_iff.mp hholds).1
      omega
    rw [covers, List.any_cons]
    split_ifs with hfirst hlast
    · have hout : r.holds n = false := by
        rw [← Bool.not_eq_true, holds_iff]
        omega
      rw [hout, hnone (by omega), Bool.or_false]
    · rw [hnone hlast, Bool.or_false]
    · have hout : r.holds n = false := by
        rw [← Bool.not_eq_true, holds_iff]
        omega
      rw [ih hrest, hout, Bool.false_or]

/-- The number with so many ones in it, the first at the first place and each some places behind the
one before. -/
def strided (step : Nat) : Nat → Nat
  | 0 => 0
  | count + 1 => strided step count <<< step ||| 1

theorem testBit_strided {step count i : Nat} :
    (strided step count).testBit i = true ↔ ∃ k < count, i = step * k := by
  induction count generalizing i with
  | zero => simp [strided]
  | succ count ih =>
    rw [strided, Nat.testBit_or, Nat.testBit_shiftLeft, Bool.or_eq_true, Bool.and_eq_true, ih,
      Nat.testBit_one_eq_true_iff_self_eq_zero, decide_eq_true_eq]
    constructor
    · rintro (⟨hle, k, hk, heq⟩ | rfl)
      · exact ⟨k + 1, by omega, by rw [Nat.mul_succ]; omega⟩
      · exact ⟨0, by omega, rfl⟩
    · rintro ⟨k, hk, rfl⟩
      cases k with
      | zero => exact .inr rfl
      | succ k =>
        refine .inl ⟨by rw [Nat.mul_succ]; omega, k, by omega, ?_⟩
        rw [Nat.mul_succ, Nat.add_sub_cancel]

/-- The number whose bits are the code points of a run. -/
def bits (r : CodeRun) : Nat :=
  if r.last < r.first then 0
  else if r.step = 1 then ((1 <<< (r.last + 1 - r.first)) - 1) <<< r.first
  else strided r.step ((r.last - r.first) / r.step + 1) <<< r.first

theorem testBit_bits (r : CodeRun) (n : Nat) : r.bits.testBit n = r.holds n := by
  rw [Bool.eq_iff_iff, holds_iff, bits]
  split_ifs with hempty hone
  · simp
    omega
  · rw [Nat.testBit_shiftLeft, Nat.one_shiftLeft, Nat.testBit_two_pow_sub_one, Bool.and_eq_true,
      decide_eq_true_eq, decide_eq_true_eq, hone, Nat.mod_one]
    omega
  · rw [Nat.testBit_shiftLeft, Bool.and_eq_true, decide_eq_true_eq, testBit_strided]
    constructor
    · rintro ⟨hfirst, k, hk, heq⟩
      have hle : r.step * k ≤ r.last - r.first :=
        Nat.le_trans (Nat.mul_le_mul_left _ (Nat.le_of_lt_succ hk)) (Nat.mul_div_le _ _)
      exact ⟨hfirst, by omega, by rw [heq, Nat.mul_mod_right]⟩
    · rintro ⟨hfirst, hlast, hmod⟩
      refine ⟨hfirst, (n - r.first) / r.step, ?_, ?_⟩
      · exact Nat.lt_succ_of_le (Nat.div_le_div_right (by omega))
      · exact (Nat.mul_div_cancel' (Nat.dvd_of_mod_eq_zero hmod)).symm

def bitsOf (runs : List CodeRun) : Nat := runs.foldr (fun r b => r.bits ||| b) 0

theorem testBit_bitsOf (runs : List CodeRun) (n : Nat) :
    (bitsOf runs).testBit n = runs.any (·.holds n) := by
  induction runs with
  | nil => simp [bitsOf]
  | cons r rest ih =>
    rw [bitsOf, List.foldr_cons, Nat.testBit_or, testBit_bits, ← bitsOf, ih, List.any_cons]

theorem covers_eq_testBit {runs : List CodeRun} (h : isAscending runs = true) (n : Nat) :
    covers runs n = (bitsOf runs).testBit n := by
  rw [covers_eq_any h, testBit_bitsOf]

end CodeRun

/-- The number whose bits are the code points that a distance leads to those of another. -/
def pullBits (b : Nat) : (distance : Int) → Nat
  | .ofNat d => b >>> d
  | .negSucc d => b <<< (d + 1)

theorem testBit_pullBits (b : Nat) {distance : Int} {n : Nat} (h : 0 ≤ n + distance) :
    (pullBits b distance).testBit n = b.testBit (n + distance).toNat := by
  cases distance with
  | ofNat d =>
    rw [pullBits, Nat.testBit_shiftRight, Nat.add_comm]
    congr 1
  | negSucc d =>
    have hd : d + 1 ≤ n := by omega
    have hmoved : (n + Int.negSucc d).toNat = n - (d + 1) := by omega
    rw [pullBits, Nat.testBit_shiftLeft, hmoved, decide_eq_true hd, Bool.true_and]

namespace CaseShift

/-- Whether a shift leads to code points, and neither into a class nor out of it. -/
def keeps (b : Nat) (s : CaseShift) : Bool :=
  decide (0 ≤ s.run.first + s.distance) &&
    pullBits b s.distance &&& s.run.bits == b &&& s.run.bits

/-- Whether a shift leads to code points, and to none of a class. -/
def leadsOff (b : Nat) (s : CaseShift) : Bool :=
  decide (0 ≤ s.run.first + s.distance) && pullBits b s.distance &&& s.run.bits == 0

theorem testBit_pullBits_and {s : CaseShift} (hstart : 0 ≤ s.run.first + s.distance) (b : Nat)
    {n : Nat} (hn : s.run.holds n = true) :
    (pullBits b s.distance &&& s.run.bits).testBit n = b.testBit (n + s.distance).toNat := by
  have hfirst := (CodeRun.holds_iff.mp hn).1
  rw [Nat.testBit_and, CodeRun.testBit_bits, hn, Bool.and_true, testBit_pullBits]
  omega

theorem covers_of_keeps {runs : List CodeRun} (hruns : CodeRun.isAscending runs = true)
    {s : CaseShift} (hs : s.keeps (CodeRun.bitsOf runs) = true) {n : Nat}
    (hn : s.run.holds n = true) :
    CodeRun.covers runs (n + s.distance).toNat = CodeRun.covers runs n := by
  rw [keeps, Bool.and_eq_true, decide_eq_true_eq, beq_iff_eq] at hs
  rw [CodeRun.covers_eq_testBit hruns, CodeRun.covers_eq_testBit hruns,
    ← testBit_pullBits_and hs.1 _ hn, hs.2, Nat.testBit_and, CodeRun.testBit_bits, hn,
    Bool.and_true]

theorem not_covers_of_leadsOff {runs : List CodeRun} (hruns : CodeRun.isAscending runs = true)
    {s : CaseShift} (hs : s.leadsOff (CodeRun.bitsOf runs) = true) {n : Nat}
    (hn : s.run.holds n = true) :
    CodeRun.covers runs (n + s.distance).toNat = false := by
  rw [leadsOff, Bool.and_eq_true, decide_eq_true_eq, beq_iff_eq] at hs
  rw [CodeRun.covers_eq_testBit hruns, ← testBit_pullBits_and hs.1 _ hn, hs.2, Nat.zero_testBit]

end CaseShift

end ApiForge.Text
