import ApiForge.Code.Grammar
import ApiForge.Problem

/-!
What can be chosen about a run.
-/

namespace ApiForge

/-- The schemas that are left out unless chosen otherwise: the shared unit of the clients has a
type for problem details already. -/
def defaultSkippedSchemas : List String :=
  ["ProblemDetails", "HttpValidationProblemDetails", "ExceptionProblemDetails"]

/-- The choices of a run. -/
structure Config where
  /-- Whether units begin with comments about what they were made from. -/
  emitMetadata : Bool := false
  /-- Whether a unit that is not well-formed code is a problem. -/
  verifySyntax : Bool := true
  /-- The class names that no schema of a document gets. -/
  skippedSchemas : List String := defaultSkippedSchemas
  /-- Whether a unit is well-formed code. -/
  accepts : String → Bool := Code.isUnit

namespace Config

/-- The choices of a run that does not check its units. -/
def unchecked : Config where
  verifySyntax := false

/-- Whether schemas with a class name are left out. -/
def isSkipped (c : Config) (className : String) : Bool := c.skippedSchemas.contains className

def verify (c : Config) (code : String) : Except Problem Unit :=
  if c.verifySyntax && !c.accepts code then .error .unparsableUnit else .ok ()

end Config

end ApiForge
