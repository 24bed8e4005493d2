import ApiForge.Client.MethodCode
import ApiForge.Config

/-!
The clients of a document: one for each first segment of its paths, with a method for each
operation. An operation that cannot be planned is noted and left out; so is a client whose unit is
not well-formed code, with all that its methods asked for.
-/

namespace ApiForge

namespace Client

/-- A type that a method of a client names. -/
structure TypeReference where
  client : String
  target : String
  deriving DecidableEq, Repr

/-- A client in the making. -/
structure Workshop where
  methods : List Method := []
  found : Discovered := {}
  issues : List Problem := []

namespace Workshop

/-- Adds a method under the first free name. -/
def addMethod (w : Workshop) (m : Method) : Workshop :=
  let name := Name.fresh (w.methods.map (·.name)) m.name
  { w with methods := w.methods ++ [{ m with name }] }

/-- Adds the method of an operation, or notes what is wrong with it. -/
def addEndpoint (info : Info) (w : Workshop) (e : Endpoint) : Workshop :=
  match (planMethod info e).outcome with
  | .ok (some m, found) => { w.addMethod m with found := w.found ++ found }
  | .ok (none, _) => w
  | .error p => { w with issues := w.issues ++ [p] }

end Workshop

def clientCode (namespaceName name segment : String) (emitMetadata : Bool)
    (methods : List Method) : String :=
  clientImports namespaceName ++ clientType name segment
    ++ String.join (methods.map fun m => "\n" ++ m.code emitMetadata) ++ clientEnd

/-- The types that methods of a client name. -/
def referencesOf (client : String) (methods : List Method) : List TypeReference :=
  methods.flatMap fun m => m.types.flatMap fun t => t.referencedNames.map (⟨client, ·⟩)

def endpointsOf (path : String) (item : PathItem) : List Endpoint :=
  item.operations.map fun (verb, operation) => ⟨path, item, verb, operation⟩

def firstSegment (path : String) : String :=
  String.ofList ((Text.pieces (· == '/') path.toList)[1]?.getD [])

/-- The operations by the first segment of their paths, in the order of the segments. -/
def bySegment (paths : Entries PathItem) : Entries (List Endpoint) :=
  paths.foldl (fun groups (path, item) =>
    let segment := firstSegment path
    groups.put segment ((groups.get? segment).getD [] ++ endpointsOf path item)) []

end Client

/-- The clients of a document. -/
structure Clients where
  /-- The shared unit and the unit of each client. -/
  units : Entries String := []
  /-- The schemas inside operations that types are still to be made for. -/
  found : Discovered := {}
  references : List Client.TypeReference := []
  methods : Nat := 0
  issues : List Problem := []

namespace Clients

open Client

/-- Adds a client whose methods are all planned. -/
def addClient (config : Config) (namespaceName name segment : String) (c : Clients)
    (w : Workshop) : Clients :=
  let code := clientCode namespaceName name segment config.emitMetadata w.methods
  match config.verify code with
  | .error p => { c with issues := c.issues ++ [p] }
  | .ok () => { c with
      units := c.units.put name code
      found := c.found ++ w.found
      references := c.references ++ referencesOf name w.methods
      methods := c.methods + w.methods.length }

/-- Adds the client of a first segment. -/
def addSegment (config : Config) (info : Info) (namespaceName : String) (c : Clients)
    (segment : String) (endpoints : List Endpoint) : Clients :=
  let w := endpoints.foldl (Workshop.addEndpoint info) {}
  addClient config namespaceName (info.clientName segment) segment
    { c with issues := c.issues ++ w.issues } w

def generate (config : Config) (document : Document) : Clients :=
  let namespaceName := document.info.namespaceName
  let start : Clients := { units := [(errorUnitName, errorUnit namespaceName)] }
  (bySegment document.paths).foldl (fun c (segment, endpoints) =>
    addSegment config document.info namespaceName c segment endpoints) start

end Clients

end ApiForge
