import ApiForge.Emit.Record
import ApiForge.Name.Identifier

/-!
Units of the markers of unions: an enumeration that wraps each variant, with a conversion from
each.
-/

namespace ApiForge.Emit

/-- The conversion of a variant to its marker. -/
def variantConversion (marker variant : String) : String :=
  lines [
    "",
    "impl From<" ++ variant ++ "> for " ++ marker ++ " \x7b",
    "    fn from(value: " ++ variant ++ ") -> Self \x7b",
    "        " ++ marker ++ "::" ++ variant ++ "(value)",
    "    \x7d",
    "\x7d"]

/-- The unit of a marker. A variant listed twice counts once. -/
def markerUnit (m : UnionMarker) : String :=
  let variants := m.variants.eraseDups
  prelude m.namespaceName [siblingsImport]
    ++ "/// One of " ++ joined ", " (variants.map fun v => "[\x60" ++ v ++ "\x60]") ++ ".\n"
    ++ "///\n"
    ++ "/// Decoded structurally by the impls of the \x60" ++ Name.codecName m.name
    ++ "\x60 unit.\n"
    ++ anyCase
    ++ "#[derive(Debug, Clone, PartialEq)]\n"
    ++ "pub enum " ++ m.name ++ " \x7b\n"
    ++ lines (variants.map fun v => "    " ++ v ++ "(" ++ v ++ "),")
    ++ "\x7d\n"
    ++ String.join (variants.map (variantConversion m.name))

end ApiForge.Emit
