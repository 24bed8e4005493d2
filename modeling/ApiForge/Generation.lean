import ApiForge.Client.Generation
import ApiForge.Document.Parsing
import ApiForge.Model.Finish

/-!
From a document to its models and clients: first the types of its schemas, then the clients of its
paths, then the types of the schemas that the clients ask for.
-/

namespace ApiForge

/-- All that is made from a document. -/
structure Generated where
  /-- The units of types. -/
  models : Entries String
  /-- The units of clients, after the one that they share. -/
  clients : Entries String
  types : List ModelType
  plans : List Plan
  issues : List Problem

namespace Document

/-- What is wrong with the types that clients name: no type was made for them, and the shared unit
has none of their name. -/
def unresolvedReferences (registry : Registry) (references : List Client.TypeReference) :
    List Problem :=
  (references.filter fun r =>
    !registry.contains r.target && !Client.errorUnitTypes.contains r.target).map
      fun r => .unresolvedForwardReference r.client r.target

def generate (config : Config) (d : Document) : Except Problem Generated := do
  let namespaceName := d.info.modelsNamespace
  let run := ModelRun.generateComponents config namespaceName {} d.schemas
  let clients := Clients.generate config d
  config.verify (Client.errorUnit d.info.namespaceName)
  let run := ModelRun.generateDiscovered config namespaceName run clients.found
  let models := run.finish config
  return {
    models := models.units
    clients := clients.units
    types := models.types
    plans := models.plans
    issues := clients.issues ++ unresolvedReferences run.registry clients.references
      ++ models.issues }

/-- Makes models and clients from the text of a document. -/
def generateFromText (config : Config) (text : String) : Except Problem Generated := do
  (← Document.parse text).generate config

end Document

end ApiForge
