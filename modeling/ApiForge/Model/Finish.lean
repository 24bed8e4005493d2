import ApiForge.Model.Cycle
import ApiForge.Model.Settling

/-!
The end of a run: names that lead nowhere are noted, fields on cycles of references are held
through pointers, and the units of the types that this changes are written anew.
-/

namespace ApiForge

/-- The outcome of a run. -/
structure Models where
  units : Entries String
  types : List ModelType
  plans : List Plan
  issues : List Problem

namespace ModelRun

/-- What is wrong with a name that a type points at: it is left out by choice, or it was to be
made and never was. -/
def danglingProblem? (config : Config) (run : ModelRun) (owner target : String) :
    Option Problem :=
  if run.registry.contains target then none
  else if config.isSkipped target then some (.skippedSchemaReference owner target)
  else if run.forward.contains target then some (.unresolvedForwardReference owner target)
  else none

/-- What is wrong with the names that the types point at. -/
def danglingProblems (config : Config) (run : ModelRun) : List Problem :=
  run.types.flatMap fun t =>
    match t.name? with
    | some owner => t.referencedNames.filterMap (run.danglingProblem? config owner)
    | none => []

/-- The units with that of the first type of a name written anew, if it is a record or variant. -/
def rerender (types : List ModelType) (notes : Entries String) (units : Entries String)
    (name : String) : Entries String :=
  match types.find? (·.name? == some name) with
  | some (.record r) => units.replace name (Emit.recordUnit r (notes.get? name))
  | some (.variant v) => units.replace name (Emit.variantUnit v)
  | _ => units

/-- Ends a run. -/
def finish (config : Config) (run : ModelRun) : Models :=
  let types := ModelType.boxAll run.types
  { units := (ModelType.boxChanges run.types).foldl (rerender types run.notes) run.units
    types
    plans := run.plans
    issues := run.issues ++ run.danglingProblems config }

end ModelRun

end ApiForge
