import ApiForge.Decimal.Double

/-!
The shortest decimal that reads back as a given double: of all decimals in the interval that rounds
to it, one with the fewest digits, and of those the nearest.
-/

namespace ApiForge.Double

/-- A decimal `digits` · 10^`exponent`. -/
structure Decimal where
  digits : Nat
  exponent : Int
  deriving DecidableEq, Repr

/-- The quotient of a number of half-steps of a double over a power of ten, as numerator and
denominator. A quarter of the double's last place is the unit of the half-steps. -/
def stepsOver (quarters : Nat) (d : Double) (power : Int) : Nat × Nat :=
  let e := d.exponent - 2
  let num := if 0 ≤ e then quarters <<< e.toNat else quarters
  let den := if 0 ≤ e then 1 else 1 <<< (-e).toNat
  if 0 ≤ power then (num, den * Nat.pow 10 power.toNat) else (num * Nat.pow 10 (-power).toNat, den)

/-- The quarters of a last place from a double down to the edge of its interval. Below a power of
two the doubles stand closer. -/
def lowerGap (d : Double) : Nat :=
  if d.mantissa = 1 <<< 52 ∧ minExponent < d.exponent then 1 else 2

/-- Whether `n` · 10^`power` lies in the interval that rounds to a double. The ends belong to it
when the mantissa is even. -/
def roundsFrom (d : Double) (n : Nat) (power : Int) : Bool :=
  let (loNum, loDen) := stepsOver (4 * d.mantissa - lowerGap d) d power
  let (hiNum, hiDen) := stepsOver (4 * d.mantissa + 2) d power
  if d.mantissa % 2 = 0 then loNum ≤ n * loDen && n * hiDen ≤ hiNum
  else loNum < n * loDen && n * hiDen < hiNum

/-- Of the two multiples of 10^`power` around a double, the nearest that rounds to it; the even
one of two that are equally near. -/
def gridPoint (d : Double) (power : Int) : Option Nat :=
  let (num, den) := stepsOver (4 * d.mantissa) d power
  let low := num / den
  let high := low + 1
  let lowFits := low != 0 && roundsFrom d low power
  let highFits := roundsFrom d high power
  if lowFits && highFits then
    let twice := 2 * (num % den)
    some (if twice < den ∨ (twice = den ∧ low % 2 = 0) then low else high)
  else if lowFits then some low
  else if highFits then some high
  else none

/-- The grids to try, coarsest first; the double itself when none has a point. -/
def searchGrid (d : Double) : Nat → Int → Decimal
  | 0, power => ⟨(gridPoint d power).getD 0, power⟩
  | n + 1, power =>
    match gridPoint d power with
    | some digits => ⟨digits, power⟩
    | none => searchGrid d n (power - 1)

/-- The number of decimal places before the point of a double that is not zero. -/
def decimalPlaces (d : Double) : Int :=
  let n := d.mantissa
  if 0 ≤ d.exponent then (Nat.toDigits 10 (n <<< d.exponent.toNat)).length
  else
    let scale : Nat := 340
    ((Nat.toDigits 10 ((n * Nat.pow 10 scale) >>> (-d.exponent).toNat)).length : Int) - scale

/-- The shortest decimal of a double that is not zero. The first grid holds the next power of ten
alone, which the double may round to. -/
def shortest (d : Double) : Decimal := searchGrid d 17 (decimalPlaces d)

end ApiForge.Double
