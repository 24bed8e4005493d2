import ApiForge.Decimal.Double
import ApiForge.Entries

/-!
JSON values. A number without a fraction or exponent that fits 64 bits is a whole number, any
other is a double.
-/

namespace ApiForge

/-- A JSON value. The members of an object stand in order, each name once. -/
inductive Json where
  | null
  | bool (b : Bool)
  | int (n : Int)
  | real (d : Double)
  | str (s : String)
  | arr (items : List Json)
  | obj (members : List (String × Json))
  deriving Repr, Inhabited

namespace Json

def isNull : Json → Bool
  | null => true
  | _ => false

end Json

end ApiForge
