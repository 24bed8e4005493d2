import ApiForge.Emit.Comment
import ApiForge.Model.Type
import ApiForge.Name.Fresh
import ApiForge.Text.Literal

/-!
Units of enumerations. Identifiers are made from the listed texts, which stay on the wire as they
are; texts that want the same identifier are numbered.
-/

namespace ApiForge.Emit

/-- The identifiers of listed texts, no two the same. -/
def enumIdents (values : List String) : List String :=
  Name.freshAll [] (values.map Name.variantIdent)

/-- One listed text with its identifier. -/
def enumEntry (value ident : String) : String :=
  "    #[serde(rename = " ++ Text.literal value ++ ")]\n" ++ "    " ++ ident ++ ",\n"

/-- The unit of an enumeration. The notes come before its description. -/
def enumerationUnit (e : EnumType) (notes : Option String) : String :=
  prelude e.namespaceName [codingImport]
    ++ notes.getD ""
    ++ docComment e.description ""
    ++ "#[derive(Debug, Clone, Copy, PartialEq, Eq, Hash, Serialize, Deserialize)]\n"
    ++ "pub enum " ++ e.name ++ " \x7b\n"
    ++ String.join (e.values.zipWith enumEntry (enumIdents e.values))
    ++ "\x7d\n"

end ApiForge.Emit
