import ApiForge.Draft.Basic
import ApiForge.Text.Digit
import ApiForge.Yaml.Token

/-!
What a scalar stands for. A plain word may be null, a truth value or a number; quoted text is
always text. Where a text is called for, every scalar gives its characters.
-/

namespace ApiForge.Yaml

open Text (numberIn)

/-- The tags of the scalars of general kinds. -/
def coreTag (name : String) : String := "tag:yaml.org,2002:" ++ name

def isNullWord (s : String) : Bool := s == "null" || s == "Null" || s == "NULL" || s == "~"

/-- The truth value that a word stands for. -/
def boolWord (s : String) : Option Bool :=
  if s == "true" || s == "True" || s == "TRUE" then some true
  else if s == "false" || s == "False" || s == "FALSE" then some false
  else none

/-- A whole number without its sign: in decimal, or with the mark of another base. -/
def wholeWord : List Char → Option Nat
  | '0' :: 'x' :: digits => numberIn 16 digits
  | '0' :: 'o' :: digits => numberIn 8 digits
  | '0' :: 'b' :: digits => numberIn 2 digits
  | digits => numberIn 10 digits

/-- The word without its sign. -/
def withoutSign : List Char → List Char
  | '+' :: rest => rest
  | '-' :: rest => rest
  | s => s

/-- Whether a word is a number with leading zeros, which counts as text. -/
def hasLeadingZero (s : List Char) : Bool :=
  let digits := withoutSign s
  digits.head? == some '0' && 2 ≤ digits.length && digits.all Char.isDigit

/-- The whole number that a word writes. -/
def intWord (s : List Char) : Option Int :=
  if hasLeadingZero s then none
  else
    match s with
    | '-' :: rest => (wholeWord rest).map fun n => -(n : Int)
    | '+' :: rest => (wholeWord rest).map Int.ofNat
    | _ => (wholeWord s).map Int.ofNat

/-- The least and greatest numbers that a value can hold. -/
def isHeld (n : Int) : Bool := -(1 <<< 63 : Nat) ≤ n && n < (1 <<< 64 : Nat)

/-- The least and greatest numbers that a word may write; beyond them it is taken for a number
with a fraction. -/
def isWritable (n : Int) : Bool := -(1 <<< 127 : Nat) ≤ n && n < (1 <<< 128 : Nat)

/-- The double that a word writes with digits, a point and an exponent. -/
def decimalWord (s : List Char) : Option Double := do
  let (negative, s) := match s with
    | '-' :: rest => (true, rest)
    | '+' :: rest => (false, rest)
    | _ => (false, s)
  let whole := s.takeWhile Char.isDigit
  let s := s.drop whole.length
  let (fraction, s) := match s with
    | '.' :: rest => (rest.takeWhile Char.isDigit, rest.dropWhile Char.isDigit)
    | _ => ([], s)
  if whole.isEmpty && fraction.isEmpty then none
  else
    let exponent ← match s with
      | [] => some 0
      | e :: rest =>
        if e == 'e' || e == 'E' then
          match rest with
          | '-' :: digits => (numberIn 10 digits).map fun n => -(n : Int)
          | '+' :: digits => (numberIn 10 digits).map Int.ofNat
          | digits => (numberIn 10 digits).map Int.ofNat
        else none
    let digits ← numberIn 10 (whole ++ fraction)
    Double.ofDecimal negative digits (exponent - fraction.length)

/-- A number that a word writes which is not whole. What is not finite has no value. -/
def realWord (s : String) : Option Json :=
  if s == ".inf" || s == ".Inf" || s == ".INF" || s == "+.inf" || s == "+.Inf" || s == "+.INF"
      || s == "-.inf" || s == "-.Inf" || s == "-.INF"
      || s == ".nan" || s == ".NaN" || s == ".NAN" then
    some .null
  else (decimalWord s.toList).map .real

/-- The value that a plain word stands for. -/
def plainValue (s : String) : Except Fault Json :=
  if s.isEmpty || isNullWord s then .ok .null
  else
    match boolWord s with
    | some b => .ok (.bool b)
    | none =>
      match (intWord s.toList).filter isWritable with
      | some n => if isHeld n then .ok (.int n) else .error .misshapen
      | none =>
        if hasLeadingZero s.toList then .ok (.str s)
        else
          match realWord s with
          | some v => .ok v
          | none => .ok (.str s)

/-- The value of a scalar with a tag. A tag of its own type makes it no value of a general
kind. -/
def taggedValue (tag : String) (s : String) : Except Fault Json :=
  if tag.startsWith "!" then .error .misshapen
  else if tag == coreTag "bool" then
    match boolWord s with
    | some b => .ok (.bool b)
    | none => .error .misshapen
  else if tag == coreTag "int" then
    match (intWord s.toList).filter isHeld with
    | some n => .ok (.int n)
    | none => .error .misshapen
  else if tag == coreTag "float" then
    match realWord s with
    | some v => .ok v
    | none => .error .misshapen
  else if tag == coreTag "null" then
    if isNullWord s then .ok .null else .error .misshapen
  else .ok (.str s)

/-- The scalar of a token, with the readings that its tag and style allow. -/
def scalarOf (tag : Option String) (style : Style) (s : String) : Scalar :=
  let plain := style == .plain
  let nullTag := tag == some (coreTag "null")
  { value := match tag with
      | some t => taggedValue t s
      | none => if plain then plainValue s else .ok (.str s)
    text := if plain && nullTag && !isNullWord s then .error .misshapen else .ok s
    flag :=
      if plain || (style == .literal && tag == some (coreTag "bool")) then
        match boolWord s with
        | some b => .ok b
        | none => .error .misshapen
      else .error .misshapen
    isAbsent := plain &&
      match tag with
      | some _ => nullTag && isNullWord s
      | none => s.isEmpty || isNullWord s
    isEmpty := plain && s.isEmpty }

end ApiForge.Yaml
