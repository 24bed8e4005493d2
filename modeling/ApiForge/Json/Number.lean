import ApiForge.Json.Value

/-!
Numbers in JSON text. A number without fraction or exponent that fits 64 bits is a whole number;
all others are doubles. A double is computed from the leading digits that fit 64 bits and a power
of ten, each step rounded on its own.
-/

namespace ApiForge.Json

/-- The parts of a number as written. -/
structure Numeral where
  negative : Bool
  whole : List Nat
  fraction : Option (List Nat)
  exponent : Option (Bool × List Nat)
  deriving DecidableEq, Repr

/-- The value of a digit character. -/
def digitOf (c : Char) : Nat := c.toNat - '0'.toNat

/-- The digits that a text starts with, and what follows them. -/
def spanDigits (s : List Char) : List Nat × List Char :=
  ((s.takeWhile Char.isDigit).map digitOf, s.dropWhile Char.isDigit)

/-- Reads the fraction of a number, which has at least one digit where there is a point. -/
def Numeral.readFraction : List Char → Option (Option (List Nat) × List Char)
  | '.' :: rest =>
    let (digits, rest) := spanDigits rest
    if digits.isEmpty then none else some (some digits, rest)
  | s => some (none, s)

/-- The sign and the digits of an exponent. -/
def Numeral.readSigned (s : List Char) : Option ((Bool × List Nat) × List Char) :=
  let (negative, digits) := match s with
    | '+' :: rest => (false, rest)
    | '-' :: rest => (true, rest)
    | _ => (false, s)
  let (digits, rest) := spanDigits digits
  if digits.isEmpty then none else some ((negative, digits), rest)

def Numeral.readExponent : List Char → Option (Option (Bool × List Nat) × List Char)
  | 'e' :: rest => (readSigned rest).map fun (e, rest) => (some e, rest)
  | 'E' :: rest => (readSigned rest).map fun (e, rest) => (some e, rest)
  | s => some (none, s)

/-- Reads a number. A leading zero stands alone before the point. -/
def Numeral.read? (s : List Char) : Option (Numeral × List Char) := do
  let (negative, s) := match s with
    | '-' :: rest => (true, rest)
    | _ => (false, s)
  let (whole, s) := spanDigits s
  if whole.isEmpty || (whole.head? == some 0 && whole.length != 1) then none
  else
    let (fraction, s) ← readFraction s
    let (exponent, s) ← readExponent s
    return (⟨negative, whole, fraction, exponent⟩, s)

/-- The greatest number of 64 bits. -/
def maxWord : Nat := 1 <<< 64 - 1

/-- Extends a number by digits as long as it fits 64 bits, and gives the digits left over. -/
def absorbDigits (n : Nat) : List Nat → Nat × List Nat
  | [] => (n, [])
  | d :: rest => if maxWord < n * 10 + d then (n, d :: rest) else absorbDigits (n * 10 + d) rest

/-- The number that digits write. -/
def digitsValue (digits : List Nat) : Nat := digits.foldl (fun n d => n * 10 + d) 0

/-- The double nearest to a power of ten. -/
def powerOfTen (n : Nat) : Double := (Double.ofNat (Nat.pow 10 n)).getD (.zero false)

/-- The greatest power of ten that is a double. -/
def maxPower : Nat := 308

/-- Divides a double by 10^`n`, by at most 10^308 at a time. -/
def shrink (d : Double) (n : Nat) : Option Double :=
  if n ≤ maxPower then d.div (powerOfTen n)
  else if d.isZero then some d
  else
    match d.div (powerOfTen maxPower) with
    | some smaller => shrink smaller (n - maxPower)
    | none => none
termination_by n
decreasing_by simp [maxPower] at *; omega

/-- A whole number of 64 bits times a power of ten; none when it is beyond the greatest
double. -/
def scaled (n : Nat) (exponent : Int) : Option Double :=
  match Double.ofNat n with
  | none => none
  | some d =>
    if exponent < 0 then shrink d (-exponent).toNat
    else if d.isZero then some d
    else if exponent ≤ maxPower then d.mul (powerOfTen exponent.toNat)
    else none

/-- The value of a number; none when it is beyond the greatest double. -/
def Numeral.value (n : Numeral) : Option Json :=
  let (word, dropped) := absorbDigits 0 n.whole
  if dropped.isEmpty && n.fraction.isNone && n.exponent.isNone
      && (!n.negative || (1 ≤ word && word ≤ 1 <<< 63)) then
    some (.int (if n.negative then -(word : Int) else word))
  else
    let fraction := n.fraction.getD []
    let (word, unused) := absorbDigits word fraction
    let shift : Int := dropped.length - (fraction.length - unused.length : Nat)
    let exponent : Int := match n.exponent with
      | none => 0
      | some (negative, digits) =>
        if negative then -(digitsValue digits : Int) else digitsValue digits
    (scaled word (shift + exponent)).map fun d => .real (if n.negative then d.negate else d)

end ApiForge.Json
