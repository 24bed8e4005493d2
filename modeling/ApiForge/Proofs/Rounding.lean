import ApiForge.Proofs.PrintedValue

/-!
What the operations on doubles round to. The exponent is chosen so that the quotient has 53 binary
places, unless that exponent is too small, and rounding adds at most one. Main statements: a rounded
quotient is a proper double (`Double.rounded_ofQuotient`), and so is every number that a text writes
(`Double.rounded_ofDecimal` and `Json.value_cases`).
-/

namespace ApiForge

namespace Double

theorem le_roundQuotient {num den k : ℕ} (hden : 0 < den) (h : k * den ≤ num) :
    k ≤ roundQuotient num den := by
  have hfloor : k ≤ num / den := (Nat.le_div_iff_mul_le hden).mpr h
  simp only [roundQuotient]
  split <;> omega

theorem roundQuotient_le {num den k : ℕ} (hden : 0 < den) (h : num < k * den) :
    roundQuotient num den ≤ k := by
  have hfloor : num / den < k := (Nat.div_lt_iff_lt_mul hden).mpr h
  simp only [roundQuotient]
  split <;> omega

/-- The quotient over a power of two as a quotient of whole numbers. -/
theorem exists_scaled (num : ℕ) {den : ℕ} (hden : 0 < den) (e : ℤ) :
    ∃ n d : ℕ, 0 < d ∧ (n : ℚ) / d = num / den / 2 ^ e ∧
      scaledQuotient num den e = roundQuotient n d ∧
      (quotientIsShort num den e = true ↔ n < 2 ^ 52 * d) := by
  have hq : (0 : ℚ) < den := by exact_mod_cast hden
  by_cases he : 0 ≤ e
  · obtain ⟨k, rfl⟩ := Int.eq_ofNat_of_zero_le he
    refine ⟨num, den <<< k, ?_, ?_, ?_, ?_⟩
    · rw [Nat.shiftLeft_eq]
      positivity
    · rw [Nat.shiftLeft_eq, zpow_natCast]
      push_cast
      rw [div_div]
    · rw [scaledQuotient, if_pos he, Int.toNat_natCast]
    · rw [quotientIsShort, if_pos he, Int.toNat_natCast, decide_eq_true_eq, Nat.shiftLeft_eq,
        Nat.shiftLeft_eq, Nat.pow_add, ← Nat.mul_assoc, Nat.mul_comm (2 ^ 52)]
  · obtain ⟨k, hk⟩ : ∃ k : ℕ, e = -(k : ℤ) := ⟨(-e).toNat, by omega⟩
    subst hk
    refine ⟨num <<< k, den, hden, ?_, ?_, ?_⟩
    · rw [Nat.shiftLeft_eq, zpow_neg, zpow_natCast]
      push_cast
      field_simp
    · rw [scaledQuotient, if_neg he, neg_neg, Int.toNat_natCast]
    · rw [quotientIsShort, if_neg he, neg_neg, Int.toNat_natCast, decide_eq_true_eq,
        Nat.shiftLeft_eq den, Nat.mul_comm den]

section Quotient

variable {num den : ℕ} {e : ℤ}

theorem quotientIsShort_iff (hden : 0 < den) :
    quotientIsShort num den e = true ↔ (num / den : ℚ) < 2 ^ 52 * 2 ^ e := by
  obtain ⟨n, d, hd, heq, -, hshort⟩ := exists_scaled num hden e
  have hpos : (0 : ℚ) < d := by exact_mod_cast hd
  rw [hshort, ← div_lt_iff₀ (by positivity), ← heq, div_lt_iff₀ hpos]
  exact_mod_cast Iff.rfl

theorem le_scaledQuotient (hden : 0 < den) {k : ℕ} (h : k * 2 ^ e ≤ (num / den : ℚ)) :
    k ≤ scaledQuotient num den e := by
  obtain ⟨n, d, hd, heq, hscaled, -⟩ := exists_scaled num hden e
  have hpos : (0 : ℚ) < d := by exact_mod_cast hd
  rw [← le_div_iff₀ (by positivity), ← heq, le_div_iff₀ hpos] at h
  rw [hscaled]
  exact le_roundQuotient hd (by exact_mod_cast h)

theorem scaledQuotient_le (hden : 0 < den) {k : ℕ} (h : (num / den : ℚ) < k * 2 ^ e) :
    scaledQuotient num den e ≤ k := by
  obtain ⟨n, d, hd, heq, hscaled, -⟩ := exists_scaled num hden e
  have hpos : (0 : ℚ) < d := by exact_mod_cast hd
  rw [← div_lt_iff₀ (by positivity), ← heq, div_lt_iff₀ hpos] at h
  rw [hscaled]
  exact roundQuotient_le hd (by exact_mod_cast h)

/-- A quotient lies between the powers that the lengths of its parts tell. -/
theorem quotient_bounds (hnum : num ≠ 0) (hden : 0 < den) :
    (2 : ℚ) ^ ((num.log2 : ℤ) - den.log2 - 1) ≤ num / den ∧
      (num / den : ℚ) < 2 ^ ((num.log2 : ℤ) - den.log2 + 1) := by
  have hpos : (0 : ℚ) < den := by exact_mod_cast hden
  have hnumLow : (2 : ℚ) ^ num.log2 ≤ num := by exact_mod_cast Nat.log2_self_le hnum
  have hnumHigh : (num : ℚ) < 2 ^ (num.log2 + 1) := by exact_mod_cast Nat.lt_log2_self
  have hdenLow : (2 : ℚ) ^ den.log2 ≤ den := by exact_mod_cast Nat.log2_self_le hden.ne'
  have hdenHigh : (den : ℚ) < 2 ^ (den.log2 + 1) := by exact_mod_cast Nat.lt_log2_self
  constructor
  · rw [le_div_iff₀ hpos]
    calc (2 : ℚ) ^ ((num.log2 : ℤ) - den.log2 - 1) * den
        ≤ 2 ^ ((num.log2 : ℤ) - den.log2 - 1) * 2 ^ (den.log2 + 1) := by gcongr
      _ = 2 ^ num.log2 := by
        rw [← zpow_natCast, ← zpow_natCast, ← zpow_add₀ two_ne_zero]
        congr 1
        push_cast
        ring
      _ ≤ num := hnumLow
  · rw [div_lt_iff₀ hpos]
    calc (num : ℚ) < 2 ^ (num.log2 + 1) := hnumHigh
      _ = 2 ^ ((num.log2 : ℤ) - den.log2 + 1) * 2 ^ den.log2 := by
        rw [← zpow_natCast, ← zpow_natCast, ← zpow_add₀ two_ne_zero]
        congr 1
        push_cast
        ring
      _ ≤ 2 ^ ((num.log2 : ℤ) - den.log2 + 1) * den := by gcongr

/-- The exponent that leaves 53 binary places before the point of a quotient. -/
def fitExponent (num den : ℕ) : ℤ :=
  let guess : ℤ := (num.log2 : ℤ) - den.log2 - 52
  if quotientIsShort num den guess then guess - 1 else guess

theorem fitExponent_spec (hnum : num ≠ 0) (hden : 0 < den) :
    (2 : ℚ) ^ 52 * 2 ^ fitExponent num den ≤ num / den ∧
      (num / den : ℚ) < 2 ^ 53 * 2 ^ fitExponent num den := by
  have hpower : ∀ (k : ℕ) (f : ℤ), (2 : ℚ) ^ k * 2 ^ f = 2 ^ (k + f) := fun k f => by
    rw [← zpow_natCast, ← zpow_add₀ two_ne_zero]
  obtain ⟨hlow, hhigh⟩ := quotient_bounds hnum hden
  simp only [fitExponent]
  split
  · next hshort =>
    rw [quotientIsShort_iff hden, hpower] at hshort
    rw [hpower, hpower]
    constructor
    · convert hlow using 2
      push_cast
      ring
    · convert hshort using 2
      push_cast
      ring
  · next hlong =>
    rw [quotientIsShort_iff hden, hpower, not_lt] at hlong
    rw [hpower, hpower]
    refine ⟨hlong, ?_⟩
    convert hhigh using 2
    push_cast
    ring

/-- A rounded mantissa with its exponent as a double; where rounding led to one place more, that
place is given up. -/
def settled (negative : Bool) (q : ℕ) (e : ℤ) : Option Double :=
  let (m, e) := if q = 1 <<< 53 then (1 <<< 52, e + 1) else (q, e)
  if maxExponent < e then none else some ⟨negative, m, e⟩

theorem ofQuotient_eq (negative : Bool) (hnum : num ≠ 0) :
    ofQuotient negative num den =
      settled negative (scaledQuotient num den (max (fitExponent num den) minExponent))
        (max (fitExponent num den) minExponent) := by
  rw [ofQuotient, if_neg hnum]
  rfl

theorem rounded_settled {negative : Bool} {q : ℕ} {d : Double} (hq : q ≤ 2 ^ 53)
    (he : minExponent ≤ e) (hfull : minExponent < e → 2 ^ 52 ≤ q)
    (h : settled negative q e = some d) : Rounded d := by
  rw [settled] at h
  split_ifs at h with hover
  · obtain ⟨-, h⟩ := Option.ite_none_left_eq_some.mp h
    rw [← Option.some.inj h]
    have hmantissa : 1 <<< 52 < 2 ^ 53 ∧ 2 ^ 52 ≤ 1 <<< 52 := by decide
    exact ⟨hmantissa.1, he.trans (le_add_of_nonneg_right zero_le_one), fun _ => hmantissa.2⟩
  · obtain ⟨-, h⟩ := Option.ite_none_left_eq_some.mp h
    rw [← Option.some.inj h]
    have hlt : q < 2 ^ 53 := lt_of_le_of_ne hq hover
    exact ⟨hlt, he, hfull⟩

theorem rounded_zero (negative : Bool) : Rounded (zero negative) :=
  ⟨by norm_num [zero], le_rfl, fun h => absurd h (lt_irrefl _)⟩

/-- A rounded quotient is a proper double. -/
theorem rounded_ofQuotient {negative : Bool} {d : Double} (hden : 0 < den)
    (h : ofQuotient negative num den = some d) : Rounded d := by
  by_cases hnum : num = 0
  · rw [ofQuotient, if_pos hnum] at h
    rw [← Option.some.inj h]
    exact rounded_zero negative
  · rw [ofQuotient_eq negative hnum] at h
    obtain ⟨hlow, hhigh⟩ := fitExponent_spec hnum hden
    refine rounded_settled ?_ (le_max_right _ _) (fun hnormal => ?_) h
    · apply scaledQuotient_le hden
      calc (num / den : ℚ) < 2 ^ 53 * 2 ^ fitExponent num den := hhigh
        _ ≤ 2 ^ 53 * 2 ^ max (fitExponent num den) minExponent := by
          gcongr
          · exact one_le_two
          · exact le_max_left _ _
        _ = ((2 ^ 53 : ℕ) : ℚ) * 2 ^ max (fitExponent num den) minExponent := by norm_num
    · -- Above the least exponent the quotient has all its places.
      have hfit : max (fitExponent num den) minExponent = fitExponent num den := by omega
      apply le_scaledQuotient hden
      rw [hfit]
      exact_mod_cast hlow

end Quotient

theorem Rounded.negate {d : Double} (hd : Rounded d) : Rounded d.negate :=
  ⟨hd.mantissa_lt, hd.minExponent_le, hd.full⟩

theorem rounded_ofNat {n : ℕ} {d : Double} (h : ofNat n = some d) : Rounded d :=
  rounded_ofQuotient one_pos h

theorem rounded_mul {a b d : Double} (h : a.mul b = some d) : Rounded d := by
  simp only [mul] at h
  split at h
  · exact rounded_ofQuotient one_pos h
  · exact rounded_ofQuotient (by rw [Nat.shiftLeft_eq]; positivity) h

theorem rounded_div {a b d : Double} (hb : 0 < b.mantissa) (h : a.div b = some d) :
    Rounded d := by
  simp only [div] at h
  split at h
  · exact rounded_ofQuotient hb h
  · exact rounded_ofQuotient (by rw [Nat.shiftLeft_eq]; positivity) h

theorem rounded_ofDecimal {negative : Bool} {digits : ℕ} {exponent : ℤ} {d : Double}
    (h : ofDecimal negative digits exponent = some d) : Rounded d := by
  simp only [ofDecimal] at h
  split_ifs at h
  · rw [← Option.some.inj h]
    exact rounded_zero negative
  · rw [← Option.some.inj h]
    exact rounded_zero negative
  · exact rounded_ofQuotient one_pos h
  · exact rounded_ofQuotient (Nat.pow_pos (by decide)) h

end Double

namespace Json

open Double

theorem mantissa_powerOfTen_pos {n : ℕ} (h : n ≤ maxPower) : 0 < (powerOfTen n).mantissa := by
  have hall : ∀ n < maxPower + 1, 0 < (powerOfTen n).mantissa := by decide +kernel
  exact hall n (Nat.lt_succ_of_le h)

theorem rounded_shrink {d r : Double} {n : ℕ} (hd : Rounded d) (h : shrink d n = some r) :
    Rounded r := by
  induction n using Nat.strongRecOn generalizing d with
  | ind n ih =>
    rw [shrink] at h
    split_ifs at h with hsmall hzero
    · exact rounded_div (mantissa_powerOfTen_pos hsmall) h
    · rwa [← Option.some.inj h]
    · split at h
      · next smaller hsmaller =>
        refine ih (n - maxPower) ?_ ?_ h
        · simp only [maxPower] at *
          omega
        · exact rounded_div (mantissa_powerOfTen_pos le_rfl) hsmaller
      · cases h

theorem rounded_scaled {n : ℕ} {exponent : ℤ} {d : Double} (h : scaled n exponent = some d) :
    Rounded d := by
  rw [scaled] at h
  split at h
  · cases h
  · next first hfirst =>
    have hrounded := rounded_ofNat hfirst
    split_ifs at h
    · exact rounded_shrink hrounded h
    · rwa [← Option.some.inj h]
    · exact rounded_mul h

/-- A number of a JSON text is a whole one or a proper double. -/
theorem value_cases {n : Numeral} {v : Json} (h : n.value = some v) :
    (∃ k, v = .int k) ∨ ∃ d, v = .real d ∧ d.Rounded := by
  simp only [Numeral.value] at h
  split at h
  · exact .inl ⟨_, (Option.some.inj h).symm⟩
  · obtain ⟨d, hd, rfl⟩ := Option.map_eq_some_iff.mp h
    have hrounded := rounded_scaled hd
    refine .inr ⟨_, rfl, ?_⟩
    split
    · exact hrounded.negate
    · exact hrounded

end Json

end ApiForge
