/-!
Lines of generated code, and templates of it. Fixed pieces of code are written with the brackets
`⟨` and `⟩` in the place of braces.
-/

namespace ApiForge.Emit

/-- Lines as one text, each of them ended. -/
def lines (ls : List String) : String := String.join (ls.map (· ++ "\n"))

/-- A character of a fixed piece of code. -/
def braceOf (c : Char) : Char :=
  if c = '⟨' then '\x7b' else if c = '⟩' then '\x7d' else c

/-- A fixed piece of code, with braces for the brackets that stand for them. -/
def braced (s : String) : String := String.ofList (s.toList.map braceOf)

def codeLines (ls : List String) : String := lines (ls.map braced)

/-- Pieces of text with a separator between them. -/
def joined (separator : String) (pieces : List String) : String := separator.intercalate pieces

/-- The head of every unit: what it was made from, and the lints it lets pass. -/
def header (namespaceName : String) (lints : List String) : String :=
  lines ["//! Generated from \x60" ++ namespaceName ++ "\x60.",
    "#![allow(" ++ joined ", " lints ++ ")]", ""]

/-- The lint against imports that nothing needs. -/
def unusedImports : String := "unused_imports"

/-- The beginning of a unit of models: its head and its imports. -/
def prelude (namespaceName : String) (imports : List String) : String :=
  header namespaceName [unusedImports] ++ lines (imports.map braced) ++ "\n"

/-- The import of the traits that records derive. -/
def codingImport : String := "use serde::⟨Deserialize, Serialize⟩;"

/-- The import of the units beside this one. -/
def siblingsImport : String := "use super::*;"

end ApiForge.Emit
