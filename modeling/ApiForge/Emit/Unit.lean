import ApiForge.Emit.Codec
import ApiForge.Emit.Enumeration
import ApiForge.Emit.Marker

/-!
The units of types and of unions.
-/

namespace ApiForge.Emit

/-- The unit of a type that has one. Only records and enumerations bear notes. -/
def typeUnit (t : ModelType) (notes : Option String) : Option String :=
  match t with
  | .primitive _ => none
  | .reference _ => none
  | .array _ => none
  | .record r => some (recordUnit r notes)
  | .enumeration e => some (enumerationUnit e notes)
  | .marker m => some (markerUnit m)
  | .variant v => some (variantUnit v)

end ApiForge.Emit
