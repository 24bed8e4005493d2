/-!
What a method gives back when the call succeeds.
-/

namespace ApiForge.Client

/-- What a method gives back when the call succeeds. -/
inductive Payload where
  /-- Nothing. -/
  | empty
  /-- A value that is always there. -/
  | json (type : String)
  /-- A value that may be missing. -/
  | optionalJson (type : String)
  deriving DecidableEq, Repr

def Payload.type : Payload → String
  | empty => "()"
  | json type => type
  | optionalJson type => "Option<" ++ type ++ ">"

end ApiForge.Client
