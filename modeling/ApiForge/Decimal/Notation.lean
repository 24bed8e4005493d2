import ApiForge.Decimal.Shortest

/-!
The text of a double. Numbers of ordinary size are written out and always show that they are not
whole numbers; very small and very large ones have an exponent.
-/

namespace ApiForge.Double

/-- The decimal exponents that are written out. -/
def writtenOut (exponent : Int) : Bool := -5 ≤ exponent && exponent ≤ 15

/-- The digits of a decimal with its point. The last argument is the exponent of the first
digit. -/
def pointed (digits : List Char) (exponent : Int) : List Char :=
  if exponent < 0 then
    '0' :: '.' :: List.replicate (-exponent - 1).toNat '0' ++ digits
  else
    let whole := exponent.toNat + 1
    let before := digits.take whole
    let after := digits.drop whole
    before ++ List.replicate (whole - digits.length) '0' ++
      '.' :: (if after.isEmpty then ['0'] else after)

/-- The digits of a decimal with an exponent. -/
def scientific (digits : List Char) (exponent : Int) : List Char :=
  let fraction := match digits.drop 1 with
    | [] => []
    | rest => '.' :: rest
  let sign := if exponent < 0 then '-' else '+'
  digits.take 1 ++ fraction ++ 'e' :: sign :: Nat.toDigits 10 exponent.natAbs

/-- The text of a double: its shortest decimal. -/
def render (d : Double) : String :=
  let magnitude :=
    if d.isZero then ['0', '.', '0']
    else
      let s := d.shortest
      let digits := Nat.toDigits 10 s.digits
      let exponent := s.exponent + digits.length - 1
      if writtenOut exponent then pointed digits exponent else scientific digits exponent
  String.ofList (if d.negative then '-' :: magnitude else magnitude)

end ApiForge.Double
