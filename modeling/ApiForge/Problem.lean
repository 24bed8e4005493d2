import ApiForge.Draft.Basic

/-!
What can go wrong in a run. Problems of the document end the run; problems of a schema, a union or
an operation are noted, and the run goes on without it.
-/

namespace ApiForge

def Fault.message : Fault → String
  | malformed => "the text is malformed"
  | misshapen => "a part has the wrong shape"
  | pathItem path => "Failed to parse path item '" ++ path ++ "'"
  | unexpected found expected => "invalid type: " ++ found ++ ", expected " ++ expected

/-- What went wrong. -/
inductive Problem where
  /-- The JSON text has a fault. -/
  | json (fault : Fault)
  /-- The YAML text has a fault. -/
  | yaml (fault : Fault)
  /-- The document lacks a field that nothing can start without. -/
  | missingDocumentField (field : String)
  /-- The type of a schema has no mapping. -/
  | unsupportedSchemaKind (kind key : String)
  /-- The type of a schema has a mapping, but not with this format. -/
  | unsupportedFormat (kind format key : String)
  /-- A variant of a union has no title to be named after. -/
  | missingVariantTitle (owner : String) (index : Nat)
  /-- A type names another that was to be generated and never was. -/
  | unresolvedForwardReference (owner target : String)
  /-- A type names another that the configuration leaves out. -/
  | skippedSchemaReference (owner target : String)
  /-- No property of a value belongs to a variant of the union. -/
  | ambiguousUnion (union : String)
  /-- A property does not belong to the variant that another one selected. -/
  | unknownUnionField (union variant field : String)
  /-- The operation does not exist for this kind of thing. -/
  | notSupported (what : String)
  /-- A unit is not well-formed code. -/
  | unparsableUnit
  deriving DecidableEq, Repr

def Problem.message : Problem → String
  | json fault => "JSON Error: " ++ fault.message
  | yaml fault => "YAML Error: " ++ fault.message
  | missingDocumentField field => "Missing required document field: " ++ field
  | unsupportedSchemaKind kind key =>
    "Unsupported schema kind '" ++ kind ++ "' for '" ++ key ++ "'"
  | unsupportedFormat kind format key =>
    "Unsupported format '" ++ format ++ "' for type '" ++ kind ++ "' at '" ++ key ++ "'"
  | missingVariantTitle owner index =>
    "oneOf variant #" ++ toString index ++ " of '" ++ owner ++ "' has no title"
  | unresolvedForwardReference owner target =>
    "Type '" ++ owner ++ "' references '" ++ target ++ "' which was never generated"
  | skippedSchemaReference owner target =>
    "Type '" ++ owner ++ "' references '" ++ target ++ "', which is excluded from the models"
  | ambiguousUnion union =>
    "Could not determine the variant of '" ++ union ++ "': no property matched any variant"
  | unknownUnionField union variant field =>
    "Property '" ++ field ++ "' not found in variant '" ++ variant ++ "' of '" ++ union ++ "'"
  | notSupported what => "Not supported: " ++ what
  | unparsableUnit => "General Error: Generated code failed to parse"

end ApiForge
