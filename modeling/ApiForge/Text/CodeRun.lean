/-!
Character classes as sorted lists of runs of code points, and case mappings as runs of code points
moved by one distance.
-/

namespace ApiForge.Text

/-- The code points `first`, `first + step`, … up to `last`. -/
structure CodeRun where
  first : Nat
  last : Nat
  step : Nat
  deriving DecidableEq, Repr

namespace CodeRun

def holds (r : CodeRun) (n : Nat) : Bool :=
  r.first ≤ n && n ≤ r.last && (n - r.first) % r.step == 0

/-- Whether one run of a list holds the code point. The runs stand in ascending order, so the
search ends at the first run that begins beyond it. -/
def covers : List CodeRun → Nat → Bool
  | [], _ => false
  | r :: rest, n =>
    if n < r.first then false else if n ≤ r.last then r.holds n else covers rest n

end CodeRun

/-- A run of code points that move by one distance when their case changes. -/
structure CaseShift where
  run : CodeRun
  distance : Int
  deriving DecidableEq, Repr

namespace CaseShift

/-- The distance that moves the code point; zero where no run holds it. -/
def distanceOf : List CaseShift → Nat → Int
  | [], _ => 0
  | s :: rest, n =>
    if n < s.run.first then 0
    else if s.run.holds n then s.distance
    else distanceOf rest n

/-- The text a character maps to: its own entry among the texts, or the character at its
distance. -/
def apply (shifts : List CaseShift) (texts : List (Nat × List Nat)) (c : Char) : List Char :=
  match texts.lookup c.toNat with
  | some codes => codes.map Char.ofNat
  | none => [Char.ofNat (c.toNat + distanceOf shifts c.toNat).toNat]

end CaseShift

end ApiForge.Text
