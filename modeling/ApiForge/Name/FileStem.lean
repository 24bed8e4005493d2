import ApiForge.Name.Fresh
import ApiForge.Name.Identifier

/-!
The files that hold the generated units. The name of a file is also the name of a module, so it
may not be a keyword, and no two units share one.
-/

namespace ApiForge.Name

/-- The file stem that a unit wants. -/
def moduleFileName (typeName : String) : String :=
  let stem := snakeCase typeName
  if stem.isEmpty then fallbackKey
  else if rawableKeywords.contains stem || pathKeywords.contains stem then stem ++ "_"
  else stem

/-- The file stem of each unit, in order of their first mention. -/
def moduleStems (names : List String) : List (String × String) :=
  let units := names.eraseDups
  units.zip (freshAll [] (units.map moduleFileName))

end ApiForge.Name
