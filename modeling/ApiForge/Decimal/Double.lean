/-!
Binary floating-point numbers of double precision, in exact arithmetic. A finite one is a whole
number below 2^53 times a power of two, and every operation rounds the exact result to the nearest
of them, to the even one of two that are equally near.
-/

namespace ApiForge

/-- The number ±`mantissa` · 2^`exponent`. -/
structure Double where
  negative : Bool
  mantissa : Nat
  exponent : Int
  deriving DecidableEq, Repr

namespace Double

/-- The least exponent, that of the numbers nearest to zero. -/
def minExponent : Int := -1074

def maxExponent : Int := 971

def zero (negative : Bool) : Double := ⟨negative, 0, minExponent⟩

def isZero (d : Double) : Bool := d.mantissa == 0

/-- The number with the other sign. -/
def negate (d : Double) : Double := { d with negative := !d.negative }

/-- A quotient rounded to the nearest whole number, to the even one of two. -/
def roundQuotient (num den : Nat) : Nat :=
  let q := num / den
  let r := num % den
  if den < 2 * r ∨ (2 * r = den ∧ q % 2 = 1) then q + 1 else q

/-- The quotient `num / den / 2^e`, rounded to a whole number. -/
def scaledQuotient (num den : Nat) (e : Int) : Nat :=
  if 0 ≤ e then roundQuotient num (den <<< e.toNat)
  else roundQuotient (num <<< (-e).toNat) den

/-- Whether the quotient `num / den / 2^e` is below 2^52. -/
def quotientIsShort (num den : Nat) (e : Int) : Bool :=
  if 0 ≤ e then num < den <<< (e.toNat + 52) else num <<< (-e).toNat < den <<< 52

/-- The double nearest to a quotient; none when it is beyond the greatest double. -/
def ofQuotient (negative : Bool) (num den : Nat) : Option Double :=
  if num = 0 then some (zero negative)
  else
    let guess : Int := (num.log2 : Int) - (den.log2 : Int) - 52
    let fit := if quotientIsShort num den guess then guess - 1 else guess
    let e := max fit minExponent
    let q := scaledQuotient num den e
    let (m, e) := if q = 1 <<< 53 then (1 <<< 52, e + 1) else (q, e)
    if maxExponent < e then none else some ⟨negative, m, e⟩

/-- The double nearest to a whole number. -/
def ofNat (n : Nat) : Option Double := ofQuotient false n 1

def mul (a b : Double) : Option Double :=
  let e := a.exponent + b.exponent
  let sign := a.negative != b.negative
  let m := a.mantissa * b.mantissa
  if 0 ≤ e then ofQuotient sign (m <<< e.toNat) 1 else ofQuotient sign m (1 <<< (-e).toNat)

/-- The quotient of two doubles, the second of them not zero. -/
def div (a b : Double) : Option Double :=
  let e := a.exponent - b.exponent
  let sign := a.negative != b.negative
  if 0 ≤ e then ofQuotient sign (a.mantissa <<< e.toNat) b.mantissa
  else ofQuotient sign a.mantissa (b.mantissa <<< (-e).toNat)

/-- The double nearest to `digits` · 10^`exponent`, rounded once. Beyond 310 places to either
side the answer is known without writing the number out. -/
def ofDecimal (negative : Bool) (digits : Nat) (exponent : Int) : Option Double :=
  if digits = 0 then some (zero negative)
  else
    let places : Int := (Nat.toDigits 10 digits).length + exponent
    if 310 < places then none
    else if places < -330 then some (zero negative)
    else if 0 ≤ exponent then ofQuotient negative (digits * Nat.pow 10 exponent.toNat) 1
    else ofQuotient negative digits (Nat.pow 10 (-exponent).toNat)

end Double

end ApiForge
