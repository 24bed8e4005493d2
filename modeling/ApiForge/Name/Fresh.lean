/-!
Names for things that want the same one. The first to come keeps the name it wants, and a later
one gets the first free number behind it, from 2 on.
-/

namespace ApiForge.Name

/-- The names to try in turn for a wanted one: itself, then with 2, 3, … behind it. -/
def candidate (wanted : String) : Nat → String
  | 0 => wanted
  | n + 1 => wanted ++ toString (n + 2)

/-- The first candidate from number `n` on whose image is not used, among `tries + 1` of them;
the last of these when none is free. -/
def searchFresh (used : List String) (image : String → String) (wanted : String) :
    (tries : Nat) → (n : Nat) → String
  | 0, n => candidate wanted n
  | tries + 1, n =>
    if used.contains (image (candidate wanted n)) then searchFresh used image wanted tries (n + 1)
    else candidate wanted n

/-- The first candidate for a wanted name whose image is not used. When the images of the
candidates differ, one of the first `used.length + 1` is free. -/
def freshBy (used : List String) (image : String → String) (wanted : String) : String :=
  searchFresh used image wanted used.length 0

/-- The first candidate for a wanted name that is not used. -/
def fresh (used : List String) (wanted : String) : String := freshBy used id wanted

/-- Gives each of a list of wanted names a name of its own, besides the ones used. -/
def freshAll (used : List String) : List String → List String
  | [] => []
  | wanted :: rest =>
    let name := fresh used wanted
    name :: freshAll (name :: used) rest

end ApiForge.Name
