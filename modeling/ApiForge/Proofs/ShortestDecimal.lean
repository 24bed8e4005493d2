import ApiForge.Decimal.Shortest
import Mathlib.Algebra.Order.Field.Power
import Mathlib.Data.Nat.Cast.Order.Field
import Mathlib.Tactic.FieldSimp
import Mathlib.Tactic.Linarith
import Mathlib.Tactic.Ring

/-!
The shortest decimal of a double. The numbers that round to a double lie between the middles of it
and its neighbours, so that no number rounds to two of them; and where the grid is so fine that it
has 17 places, one of its points lies there. Main statement: the shortest decimal of a double rounds
to it and to no other (`roundsTo_shortest` and `eq_of_roundsTo`).
-/

namespace ApiForge.Double

/-- A double as the operations round to it: a mantissa of 53 binary places, the first of which is
used unless the exponent is the least. -/
structure Rounded (d : Double) : Prop where
  mantissa_lt : d.mantissa < 2 ^ 53
  minExponent_le : minExponent ≤ d.exponent
  full : minExponent < d.exponent → 2 ^ 52 ≤ d.mantissa

def size (d : Double) : ℚ := d.mantissa * 2 ^ d.exponent

/-- The middle of a double and the one below it. -/
def lower (d : Double) : ℚ := (4 * d.mantissa - d.lowerGap) * 2 ^ (d.exponent - 2)

/-- The middle of a double and the one above it. -/
def upper (d : Double) : ℚ := (4 * d.mantissa + 2) * 2 ^ (d.exponent - 2)

/-- A number rounds to a double; in the middle of two it rounds to the even one. -/
def RoundsTo (x : ℚ) (d : Double) : Prop :=
  if d.mantissa % 2 = 0 then d.lower ≤ x ∧ x ≤ d.upper else d.lower < x ∧ x < d.upper

def Decimal.number (s : Decimal) : ℚ := s.digits * 10 ^ s.exponent

/-! What the checks compute. -/

theorem quarter_pos (d : Double) : (0 : ℚ) < 2 ^ (d.exponent - 2) := by positivity

theorem size_eq (d : Double) : d.size = 4 * d.mantissa * 2 ^ (d.exponent - 2) := by
  rw [size, zpow_sub₀ two_ne_zero]
  norm_num
  ring

theorem lowerGap_cases (d : Double) :
    d.lowerGap = 1 ∧ d.mantissa = 2 ^ 52 ∨
      d.lowerGap = 2 ∧ ¬ (d.mantissa = 2 ^ 52 ∧ minExponent < d.exponent) := by
  rw [lowerGap]
  split
  · next h => exact .inl ⟨rfl, h.1⟩
  · next h => exact .inr ⟨rfl, h⟩

theorem lower_lt_size (d : Double) : d.lower < d.size := by
  have hq := quarter_pos d
  rw [lower, size_eq]
  rcases lowerGap_cases d with ⟨h, -⟩ | ⟨h, -⟩
  · rw [h]
    push_cast
    nlinarith
  · rw [h]
    push_cast
    nlinarith

theorem size_lt_upper (d : Double) : d.size < d.upper := by
  have hq := quarter_pos d
  rw [upper, size_eq]
  nlinarith

theorem stepsOver_spec (quarters : ℕ) (d : Double) (power : ℤ) :
    0 < (stepsOver quarters d power).2 ∧
      ((stepsOver quarters d power).1 : ℚ) / (stepsOver quarters d power).2 =
        quarters * 2 ^ (d.exponent - 2) / 10 ^ power := by
  have htwo : ∀ e : ℤ, 0 ≤ e → (2 : ℚ) ^ e = 2 ^ e.toNat := fun e he => by
    rw [← zpow_natCast, Int.toNat_of_nonneg he]
  have hten : ∀ p : ℤ, 0 ≤ p → (10 : ℚ) ^ p = 10 ^ p.toNat := fun p hp => by
    rw [← zpow_natCast, Int.toNat_of_nonneg hp]
  have hneg : ∀ (b : ℚ) (e : ℤ), ¬ 0 ≤ e → b ^ e = (b ^ (-e).toNat)⁻¹ := fun b e he => by
    rw [← zpow_natCast, Int.toNat_of_nonneg (by omega), zpow_neg, inv_inv]
  simp only [stepsOver, Nat.shiftLeft_eq, Nat.pow_eq]
  by_cases he : 0 ≤ d.exponent - 2
  · by_cases hp : 0 ≤ power
    · simp only [if_pos he, if_pos hp, htwo _ he, hten _ hp]
      constructor
      · positivity
      · push_cast
        ring
    · simp only [if_pos he, if_neg hp, htwo _ he, hneg _ _ hp]
      constructor
      · positivity
      · push_cast
        field_simp
  · by_cases hp : 0 ≤ power
    · simp only [if_neg he, if_pos hp, hneg _ _ he, hten _ hp]
      constructor
      · positivity
      · push_cast
        field_simp
    · simp only [if_neg he, if_neg hp, hneg _ _ he, hneg _ _ hp]
      constructor
      · positivity
      · push_cast
        field_simp

theorem stepsOver_le_iff (quarters n : ℕ) (d : Double) (power : ℤ) :
    ((stepsOver quarters d power).1 ≤ n * (stepsOver quarters d power).2 ↔
      quarters * 2 ^ (d.exponent - 2) ≤ (n * 10 ^ power : ℚ)) ∧
    (n * (stepsOver quarters d power).2 ≤ (stepsOver quarters d power).1 ↔
      (n * 10 ^ power : ℚ) ≤ quarters * 2 ^ (d.exponent - 2)) := by
  obtain ⟨hpos, heq⟩ := stepsOver_spec quarters d power
  have hden : (0 : ℚ) < (stepsOver quarters d power).2 := by exact_mod_cast hpos
  have hten : (0 : ℚ) < 10 ^ power := by positivity
  constructor
  · rw [← div_le_iff₀ hten, ← heq, div_le_iff₀ hden]
    exact_mod_cast Iff.rfl
  · rw [← le_div_iff₀ hten, ← heq, le_div_iff₀ hden]
    exact_mod_cast Iff.rfl

theorem roundsFrom_iff {d : Double} (hd : 0 < d.mantissa) (n : ℕ) (power : ℤ) :
    roundsFrom d n power = true ↔ RoundsTo (n * 10 ^ power) d := by
  have hlower : ((4 * d.mantissa - d.lowerGap : ℕ) : ℚ) * 2 ^ (d.exponent - 2) = d.lower := by
    have hle : d.lowerGap ≤ 4 * d.mantissa := by
      rcases lowerGap_cases d with ⟨h, -⟩ | ⟨h, -⟩ <;> omega
    rw [lower, Nat.cast_sub hle]
    push_cast
    rfl
  have hupper : ((4 * d.mantissa + 2 : ℕ) : ℚ) * 2 ^ (d.exponent - 2) = d.upper := by
    rw [upper]
    push_cast
    rfl
  obtain ⟨hlow, hlow'⟩ := stepsOver_le_iff (4 * d.mantissa - d.lowerGap) n d power
  obtain ⟨hhigh', hhigh⟩ := stepsOver_le_iff (4 * d.mantissa + 2) n d power
  rw [hlower] at hlow hlow'
  rw [hupper] at hhigh hhigh'
  rw [RoundsTo]
  dsimp only [roundsFrom]
  split
  · rw [Bool.and_eq_true, decide_eq_true_eq, decide_eq_true_eq, hlow, hhigh]
  · rw [Bool.and_eq_true, decide_eq_true_eq, decide_eq_true_eq, ← Nat.not_le, ← Nat.not_le, hlow',
      hhigh', not_le, not_le]

/-! No number rounds to two doubles. -/

/-- One double comes before another: it has the smaller exponent, or the same and the smaller
mantissa. -/
def Before (d f : Double) : Prop :=
  d.exponent < f.exponent ∨ d.exponent = f.exponent ∧ d.mantissa < f.mantissa

/-- Where the upper end of a double is the lower end of a later one, one of them is odd. -/
theorem upper_le_lower {d f : Double} (hd : Rounded d) (hf : Rounded f) (h : Before d f) :
    d.upper ≤ f.lower ∧ (d.upper = f.lower → ¬ (d.mantissa % 2 = 0 ∧ f.mantissa % 2 = 0)) := by
  have hq := quarter_pos d
  rw [upper, lower]
  rcases h with h | ⟨h, hmantissa⟩
  · -- The step of the later double is at least twice as wide, and its mantissa has full length.
    have habove : minExponent < f.exponent := lt_of_le_of_lt hd.minExponent_le h
    have hfull := hf.full habove
    have hstep : 2 * (2 : ℚ) ^ (d.exponent - 2) ≤ 2 ^ (f.exponent - 2) := by
      rw [← zpow_one_add₀ two_ne_zero]
      exact zpow_le_zpow_right₀ one_le_two (by omega)
    have hshort : (d.mantissa : ℚ) + 1 ≤ 2 ^ 53 := by exact_mod_cast hd.mantissa_lt
    rcases lowerGap_cases f with ⟨hgap, hm⟩ | ⟨hgap, hm⟩
    · rw [hgap, hm]
      push_cast
      refine ⟨by nlinarith, fun heq heven => ?_⟩
      have hlast : (d.mantissa : ℚ) + 1 = 2 ^ 53 := by nlinarith
      have hnat : d.mantissa + 1 = 2 ^ 53 := by exact_mod_cast hlast
      omega
    · have hlonger : (2 ^ 52 + 1 : ℚ) ≤ f.mantissa := by
        exact_mod_cast lt_of_le_of_ne hfull fun heq => hm ⟨heq.symm, habove⟩
      rw [hgap]
      push_cast
      refine ⟨by nlinarith, fun heq => ?_⟩
      nlinarith
  · rw [h] at hq ⊢
    have hnext : (d.mantissa : ℚ) + 1 ≤ f.mantissa := by exact_mod_cast hmantissa
    rcases lowerGap_cases f with ⟨hgap, -⟩ | ⟨hgap, -⟩
    · rw [hgap]
      push_cast
      refine ⟨by nlinarith, fun heq => ?_⟩
      nlinarith
    · rw [hgap]
      push_cast
      refine ⟨by nlinarith, fun heq heven => ?_⟩
      have hnear : (f.mantissa : ℚ) = d.mantissa + 1 := by nlinarith
      have hnat : f.mantissa = d.mantissa + 1 := by exact_mod_cast hnear
      omega

theorem roundsTo_of_between {x : ℚ} {d : Double} (hlow : d.lower < x) (hhigh : x < d.upper) :
    RoundsTo x d := by
  rw [RoundsTo]
  split
  · exact ⟨hlow.le, hhigh.le⟩
  · exact ⟨hlow, hhigh⟩

theorem RoundsTo.between {x : ℚ} {d : Double} (h : RoundsTo x d) : d.lower ≤ x ∧ x ≤ d.upper := by
  rw [RoundsTo] at h
  split at h
  · exact h
  · exact ⟨h.1.le, h.2.le⟩

theorem RoundsTo.even {x : ℚ} {d : Double} (h : RoundsTo x d) (hedge : x = d.lower ∨ x = d.upper) :
    d.mantissa % 2 = 0 := by
  rw [RoundsTo] at h
  split at h
  · next heven => exact heven
  · rcases hedge with rfl | rfl
    · exact absurd h.1 (lt_irrefl _)
    · exact absurd h.2 (lt_irrefl _)

theorem RoundsTo.not_before {x : ℚ} {d f : Double} (hd : Rounded d) (hf : Rounded f)
    (hx : RoundsTo x d) (hy : RoundsTo x f) : ¬ Before d f := by
  intro h
  obtain ⟨hle, hodd⟩ := upper_le_lower hd hf h
  have hupper : x = d.upper := le_antisymm hx.between.2 (hle.trans hy.between.1)
  have hlower : x = f.lower := le_antisymm (hupper.le.trans hle) hy.between.1
  exact hodd (hupper.symm.trans hlower) ⟨hx.even (.inr hupper), hy.even (.inl hlower)⟩

/-- A number rounds to one double, whatever its sign. -/
theorem eq_of_roundsTo {x : ℚ} {d f : Double} (hd : Rounded d) (hf : Rounded f)
    (hx : RoundsTo x d) (hy : RoundsTo x f) :
    d.mantissa = f.mantissa ∧ d.exponent = f.exponent := by
  have hbefore := hx.not_before hd hf hy
  have hafter := hy.not_before hf hd hx
  rw [Before] at hbefore hafter
  omega

/-! The search comes to a decimal. -/

theorem roundsFrom_of_gridPoint {d : Double} {power : ℤ} {n : ℕ}
    (h : gridPoint d power = some n) : roundsFrom d n power = true := by
  simp only [gridPoint] at h
  split at h
  · next hboth =>
    obtain ⟨hlow, hhigh⟩ := Bool.and_eq_true_iff.mp hboth
    have hlow := (Bool.and_eq_true_iff.mp hlow).2
    obtain rfl := Option.some.inj h
    split
    · exact hlow
    · exact hhigh
  · split at h
    · next hlow =>
      obtain rfl := Option.some.inj h
      exact (Bool.and_eq_true_iff.mp hlow).2
    · split at h
      · next hhigh =>
        obtain rfl := Option.some.inj h
        exact hhigh
      · cases h

theorem not_roundsFrom_of_gridPoint {d : Double} {power : ℤ} (h : gridPoint d power = none)
    (hlow : (stepsOver (4 * d.mantissa) d power).1 / (stepsOver (4 * d.mantissa) d power).2 ≠ 0) :
    roundsFrom d ((stepsOver (4 * d.mantissa) d power).1 /
        (stepsOver (4 * d.mantissa) d power).2) power ≠ true ∧
      roundsFrom d ((stepsOver (4 * d.mantissa) d power).1 /
        (stepsOver (4 * d.mantissa) d power).2 + 1) power ≠ true := by
  simp only [gridPoint] at h
  split at h
  · cases h
  · split at h
    · cases h
    · next hfits =>
      split at h
      · cases h
      · next hhigh =>
        refine ⟨fun hroundsFrom => hfits ?_, hhigh⟩
        rw [hroundsFrom, Bool.and_true, bne_iff_ne]
        exact hlow

/-- The multiples of a power of ten around a double round to it or lie beyond its ends. -/
theorem wide_of_gridPoint {d : Double} (hd : 0 < d.mantissa) {power : ℤ}
    (hsize : 10 ^ power ≤ d.size) (h : gridPoint d power = none) :
    d.upper - d.lower ≤ 10 ^ power := by
  obtain ⟨hpos, heq⟩ := stepsOver_spec (4 * d.mantissa) d power
  have hten : (0 : ℚ) < 10 ^ power := by positivity
  push_cast at heq
  rw [← size_eq] at heq
  set steps := stepsOver (4 * d.mantissa) d power with hsteps
  have hden : (0 : ℚ) < steps.2 := by exact_mod_cast hpos
  set low := steps.1 / steps.2 with hlow
  have hbelow : (low : ℚ) * 10 ^ power ≤ d.size := by
    rw [← le_div_iff₀ hten, ← heq]
    exact Nat.cast_div_le
  have habove : d.size < ((low + 1 : ℕ) : ℚ) * 10 ^ power := by
    rw [← div_lt_iff₀ hten, ← heq, div_lt_iff₀ hden]
    exact_mod_cast (Nat.lt_mul_of_div_lt (Nat.lt_succ_self _) hpos)
  have hlow_ne : low ≠ 0 := by
    intro hzero
    rw [hzero] at habove
    push_cast at habove
    linarith
  have hnone := not_roundsFrom_of_gridPoint h hlow_ne
  rw [← hsteps, ← hlow] at hnone
  rw [ne_eq, ne_eq, roundsFrom_iff hd, roundsFrom_iff hd] at hnone
  have hsmall := lower_lt_size d
  have hlarge := size_lt_upper d
  have hfirst : (low : ℚ) * 10 ^ power ≤ d.lower :=
    not_lt.mp fun hlt => hnone.1 (roundsTo_of_between hlt (hbelow.trans_lt hlarge))
  have hsecond : d.upper ≤ ((low + 1 : ℕ) : ℚ) * 10 ^ power :=
    not_lt.mp fun hlt => hnone.2 (roundsTo_of_between (hsmall.trans habove) hlt)
  push_cast at hsecond
  linarith

/-- A grid of 17 places is finer than the doubles. -/
theorem exists_gridPoint {d : Double} (hd : Rounded d) (hpos : 0 < d.mantissa) {power : ℤ}
    (hsize : 10 ^ (power + 16) ≤ d.size) : ∃ n, gridPoint d power = some n := by
  rw [← Option.ne_none_iff_exists']
  intro hnone
  have hq := quarter_pos d
  have hpower : (10 : ℚ) ^ (power + 16) = 10 ^ power * 10 ^ 16 := by
    rw [zpow_add₀ (by norm_num)]
    norm_num
  have hten : (0 : ℚ) < 10 ^ power := by positivity
  have hwide := wide_of_gridPoint hpos (by rw [hpower] at hsize; nlinarith) hnone
  have hlong : (10 : ℚ) ^ 16 * (d.upper - d.lower) ≤ d.size := by
    rw [hpower] at hsize
    nlinarith
  rw [upper, lower, size_eq] at hlong
  have hshort : (d.mantissa : ℚ) < 2 ^ 53 := by exact_mod_cast hd.mantissa_lt
  rcases lowerGap_cases d with ⟨hgap, hm⟩ | ⟨hgap, -⟩
  · rw [hgap, hm] at hlong
    push_cast at hlong
    nlinarith
  · rw [hgap] at hlong
    push_cast at hlong
    nlinarith

theorem pow_length_toDigits_le {n : ℕ} (hn : 0 < n) :
    10 ^ ((Nat.toDigits 10 n).length - 1) ≤ n := by
  by_cases hone : (Nat.toDigits 10 n).length - 1 = 0
  · rw [hone]
    exact hn
  · rw [← Nat.not_lt, ← Nat.length_toDigits_le_iff (by decide) (Nat.pos_of_ne_zero hone)]
    omega

theorem zpow_length_toDigits_le {n : ℕ} (hn : 0 < n) :
    (10 : ℚ) ^ (((Nat.toDigits 10 n).length : ℤ) - 1) ≤ n := by
  have hlength : 0 < (Nat.toDigits 10 n).length := Nat.length_toDigits_pos
  have hexponent : ((Nat.toDigits 10 n).length : ℤ) - 1 =
      (((Nat.toDigits 10 n).length - 1 : ℕ) : ℤ) := by omega
  rw [hexponent, zpow_natCast]
  exact_mod_cast pow_length_toDigits_le hn

/-- The places of a fraction are counted on a multiple of it that is a whole number or more. -/
theorem zpow_length_shiftRight_le {m k scale : ℕ} (h : 2 ^ k ≤ m * 10 ^ scale) :
    (10 : ℚ) ^ (((Nat.toDigits 10 ((m * Nat.pow 10 scale) >>> k)).length : ℤ) - scale - 1) ≤
      m * (2 ^ k)⁻¹ := by
  rw [Nat.shiftRight_eq_div_pow, Nat.pow_eq]
  have hquotient : 0 < m * 10 ^ scale / 2 ^ k := Nat.div_pos h (by positivity)
  have hle := (zpow_length_toDigits_le hquotient).trans Nat.cast_div_le
  rw [sub_right_comm, zpow_sub₀ (by norm_num), div_le_iff₀ (by positivity), zpow_natCast]
  refine hle.trans (le_of_eq ?_)
  push_cast
  ring

theorem two_pow_le_ten_pow {k n scale : ℕ} (hk : k ≤ 13 * n) (hscale : 4 * n ≤ scale) :
    2 ^ k ≤ 10 ^ scale :=
  calc 2 ^ k ≤ 2 ^ (13 * n) := Nat.pow_le_pow_right (by decide) hk
    _ = (2 ^ 13) ^ n := pow_mul 2 13 n
    _ ≤ (10 ^ 4) ^ n := Nat.pow_le_pow_left (by decide) n
    _ = 10 ^ (4 * n) := (pow_mul 10 4 n).symm
    _ ≤ 10 ^ scale := Nat.pow_le_pow_right (by decide) hscale

/-- A double has as many places before the point as are counted, or more. -/
theorem pow_decimalPlaces_le {d : Double} (hd : Rounded d) (hpos : 0 < d.mantissa) :
    10 ^ (decimalPlaces d - 1) ≤ d.size := by
  rw [decimalPlaces, size]
  dsimp only
  split
  · next he =>
    have hshift : (d.mantissa : ℚ) * 2 ^ d.exponent = (d.mantissa <<< d.exponent.toNat : ℕ) := by
      rw [Nat.shiftLeft_eq, Nat.cast_mul, Nat.cast_pow, Nat.cast_ofNat, ← zpow_natCast,
        Int.toNat_of_nonneg he]
    rw [hshift]
    exact zpow_length_toDigits_le (by rw [Nat.shiftLeft_eq]; positivity)
  · next he =>
    have hbound : (-d.exponent).toNat ≤ 1074 := by
      have hmin := hd.minExponent_le
      rw [minExponent] at hmin
      omega
    have hexponent : d.exponent = -((-d.exponent).toNat : ℤ) := by omega
    have hpower : (2 : ℚ) ^ d.exponent = (2 ^ (-d.exponent).toNat)⁻¹ := by
      conv_lhs => rw [hexponent, zpow_neg, zpow_natCast]
    rw [hpower]
    generalize hscale : (340 : ℕ) = scale
    have hle : 2 ^ (-d.exponent).toNat ≤ 10 ^ scale :=
      two_pow_le_ten_pow (n := 85) (by omega) (by omega)
    exact zpow_length_shiftRight_le (hle.trans (Nat.le_mul_of_pos_left _ hpos))

theorem gridPoint_searchGrid {d : Double} {n : ℕ} {power : ℤ} {m : ℕ}
    (h : gridPoint d (power - n) = some m) :
    gridPoint d (searchGrid d n power).exponent = some (searchGrid d n power).digits := by
  induction n generalizing power with
  | zero =>
    rw [Nat.cast_zero, sub_zero] at h
    simp only [searchGrid, h, Option.getD_some]
  | succ n ih =>
    rw [searchGrid]
    split
    · next hfound => exact hfound
    · apply ih
      rw [← h]
      congr 1
      push_cast
      ring

/-- The shortest decimal of a double rounds to it. -/
theorem roundsTo_shortest {d : Double} (hd : Rounded d) (hpos : 0 < d.mantissa) :
    RoundsTo d.shortest.number d := by
  have hsize : 10 ^ (decimalPlaces d - 17 + 16) ≤ d.size := by
    have hplaces := pow_decimalPlaces_le hd hpos
    rwa [← sub_add_cancel (decimalPlaces d - 1) 16, sub_sub] at hplaces
  obtain ⟨n, hn⟩ := exists_gridPoint hd hpos hsize
  have hfound := roundsFrom_of_gridPoint (gridPoint_searchGrid (n := 17) hn)
  exact (roundsFrom_iff hpos _ _).mp hfound

theorem lower_pos {d : Double} (hpos : 0 < d.mantissa) : 0 < d.lower := by
  have hq := quarter_pos d
  have hone : (1 : ℚ) ≤ d.mantissa := by exact_mod_cast hpos
  rw [lower]
  rcases lowerGap_cases d with ⟨h, -⟩ | ⟨h, -⟩
  · rw [h]
    push_cast
    nlinarith
  · rw [h]
    push_cast
    nlinarith

theorem digits_shortest_pos {d : Double} (hd : Rounded d) (hpos : 0 < d.mantissa) :
    0 < d.shortest.digits := by
  have hnumber := (lower_pos hpos).trans_le (roundsTo_shortest hd hpos).between.1
  rw [Decimal.number] at hnumber
  by_contra hzero
  rw [Nat.not_lt, Nat.le_zero] at hzero
  rw [hzero] at hnumber
  simp at hnumber

end ApiForge.Double
