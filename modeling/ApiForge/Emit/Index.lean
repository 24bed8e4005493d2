import ApiForge.Emit.Line

/-!
The module that makes the units of a folder known and passes on what they hold.
-/

namespace ApiForge.Emit

/-- The index of the modules with some file stems. -/
def moduleIndex (stems : List String) : String :=
  "#![allow(unused_imports)]\n\n"
    ++ lines (stems.map fun s => "pub mod " ++ s ++ ";")
    ++ "\n"
    ++ lines (stems.map fun s => "pub use " ++ s ++ "::*;")

end ApiForge.Emit
