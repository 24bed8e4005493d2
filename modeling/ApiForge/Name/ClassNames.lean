import ApiForge.Name.Key

/-!
The class names given out so far. A key is derived once and looked up afterwards, and a look-up
answers what the derivation would, so the table never changes a name.
-/

namespace ApiForge.Name

/-- The keys named so far with their class names, latest first. -/
structure ClassNames where
  entries : List (String × String) := []
  deriving Repr, DecidableEq

namespace ClassNames

def size (t : ClassNames) : Nat := t.entries.length

/-- The class name of a key and the table afterwards. The empty key is not kept. -/
def nameOf (t : ClassNames) (key : String) : String × ClassNames :=
  if key.isEmpty then (titleCase fallbackKey, t)
  else
    match t.entries.lookup key with
    | some name => (name, t)
    | none => (className key, ⟨(key, className key) :: t.entries⟩)

end ClassNames

end ApiForge.Name
