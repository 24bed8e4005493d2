import ApiForge.Schema.Raw

/-!
The two spellings of a nullable type: the type alone with the flag of nullable schemas, and the type
listed together with null, where the flag may say anything or be missing. Some of the nodes inside a
schema that have the first spelling are given the second one; which nodes these are is a choice
among the paths that lead to them. Main statement: the node at every path is respelled as chosen for
the path, and no choice changes what the schema means (`spellings_interchangeable`).
-/

namespace ApiForge

inductive SchemaStep where
  | property (index : Nat)
  | items
  | variant (index : Nat)

/-- How a type is listed together with null, and what the flag says then. -/
structure NullListing where
  nullFirst : Bool
  nullable : Option Bool

/-- The nodes of a schema that are given the other spelling, by the paths to them. -/
abbrev Respelling := List SchemaStep → Option NullListing

def Respelling.inside (choice : Respelling) (step : SchemaStep) : Respelling :=
  fun path => choice (step :: path)

namespace TypeNames

def listed (listing : NullListing) (name : String) : TypeNames :=
  .several (if listing.nullFirst then [nullName, name] else [name, nullName])

/-- The single type, not null itself, of a schema that the flag makes nullable. -/
def flagged? : Option TypeNames → Option Bool → Option String
  | some (.single name), some true => if name = nullName then none else some name
  | _, _ => none

/-- The type and the flag of a node. Only a node with a flagged type gets the other spelling. -/
def respell (listing? : Option NullListing) (types : Option TypeNames) (nullable : Option Bool) :
    Option TypeNames × Option Bool :=
  match listing?, flagged? types nullable with
  | some listing, some name => (some (listed listing name), listing.nullable)
  | _, _ => (types, nullable)

end TypeNames

namespace RawSchema

mutual

/-- A schema with the chosen nodes in the other spelling. -/
def respell (choice : Respelling) : RawSchema → RawSchema
  | ⟨title, description, nullable, default, deprecated, required, types, format, reference,
      properties, enumeration, items, oneOf⟩ =>
    { title, description, default, deprecated, required, format, reference, enumeration
      types := (TypeNames.respell (choice []) types nullable).1
      nullable := (TypeNames.respell (choice []) types nullable).2
      properties := respellProperties choice properties
      items := respellItems choice items
      oneOf := respellOneOf choice oneOf }

def respellProperties (choice : Respelling) :
    Option (List (String × RawSchema)) → Option (List (String × RawSchema))
  | none => none
  | some members => some (respellMembers choice 0 members)

def respellMembers (choice : Respelling) (index : Nat) :
    List (String × RawSchema) → List (String × RawSchema)
  | [] => []
  | (name, raw) :: rest =>
    (name, respell (choice.inside (.property index)) raw) :: respellMembers choice (index + 1) rest

def respellItems (choice : Respelling) : Option RawSchema → Option RawSchema
  | none => none
  | some raw => some (respell (choice.inside .items) raw)

def respellOneOf (choice : Respelling) : Option (List RawSchema) → Option (List RawSchema)
  | none => none
  | some variants => some (respellVariants choice 0 variants)

def respellVariants (choice : Respelling) (index : Nat) : List RawSchema → List RawSchema
  | [] => []
  | raw :: rest =>
    respell (choice.inside (.variant index)) raw :: respellVariants choice (index + 1) rest

end

def nodeAt : List SchemaStep → RawSchema → Option RawSchema
  | [], raw => some raw
  | .property index :: path, raw =>
    ((raw.properties.getD [])[index]?).bind fun member => nodeAt path member.2
  | .items :: path, raw => raw.items.bind (nodeAt path)
  | .variant index :: path, raw => ((raw.oneOf.getD [])[index]?).bind (nodeAt path)

end RawSchema

namespace TypeNames

theorem kind_listed (listing : NullListing) {name : String} (h : name ≠ nullName) :
    (listed listing name).kind = some name := by
  rw [listed, kind]
  cases listing.nullFirst <;> simp [h]

theorem allowsNull_listed (listing : NullListing) (name : String) :
    (listed listing name).allowsNull = true := by
  rw [listed, allowsNull]
  cases listing.nullFirst <;> simp

theorem flagged?_eq_some {types : Option TypeNames} {nullable : Option Bool} {name : String}
    (h : flagged? types nullable = some name) :
    types = some (.single name) ∧ nullable = some true ∧ name ≠ nullName := by
  unfold flagged? at h
  split at h
  · split at h
    · cases h
    · next hname =>
      cases h
      exact ⟨rfl, rfl, hname⟩
  · cases h

/-- Both spellings have the same type and allow null. -/
theorem respell_same (listing? : Option NullListing) (types : Option TypeNames)
    (nullable : Option Bool) :
    (respell listing? types nullable).1.bind kind = types.bind kind ∧
      ((respell listing? types nullable).2.getD false ||
          ((respell listing? types nullable).1.map allowsNull).getD false) =
        (nullable.getD false || (types.map allowsNull).getD false) := by
  unfold respell
  split
  · next listing name hflagged =>
    obtain ⟨rfl, rfl, hname⟩ := flagged?_eq_some hflagged
    constructor
    · exact kind_listed listing hname
    · simp [allowsNull_listed]
  · exact ⟨rfl, rfl⟩

end TypeNames

namespace Schema

-- The induction follows the nesting: what stands inside a node is respelled by the choice for the
-- paths that go on there.
mutual

theorem ofRaw_respell (choice : Respelling) : (raw : RawSchema) →
    ofRaw (raw.respell choice) = ofRaw raw
  | ⟨title, description, nullable, default, deprecated, required, types, format, reference,
      properties, enumeration, items, oneOf⟩ => by
    obtain ⟨hkind, hnull⟩ := TypeNames.respell_same (choice []) types nullable
    rw [RawSchema.respell, ofRaw, ofRaw, hkind, ofProperties_respell choice properties,
      ofItems_respell choice items, ofVariants_respell choice oneOf]
    simp only [RawSchema.annotations]
    rw [hnull]

theorem ofProperties_respell (choice : Respelling) :
    (properties : Option (List (String × RawSchema))) →
    ofProperties (RawSchema.respellProperties choice properties) = ofProperties properties
  | none => rfl
  | some members => by
    rw [RawSchema.respellProperties, ofProperties, ofProperties, ofMembers_respell choice 0 members]

theorem ofMembers_respell (choice : Respelling) (index : Nat) :
    (members : List (String × RawSchema)) →
    ofMembers (RawSchema.respellMembers choice index members) = ofMembers members
  | [] => rfl
  | (name, raw) :: rest => by
    rw [RawSchema.respellMembers, ofMembers, ofMembers, ofRaw_respell _ raw,
      ofMembers_respell choice (index + 1) rest]

theorem ofItems_respell (choice : Respelling) : (items : Option RawSchema) →
    ofItems (RawSchema.respellItems choice items) = ofItems items
  | none => rfl
  | some raw => by rw [RawSchema.respellItems, ofItems, ofItems, ofRaw_respell _ raw]

theorem ofVariants_respell (choice : Respelling) : (oneOf : Option (List RawSchema)) →
    ofVariants (RawSchema.respellOneOf choice oneOf) = ofVariants oneOf
  | none => rfl
  | some variants => by
    rw [RawSchema.respellOneOf, ofVariants, ofVariants, ofRaws_respell choice 0 variants]

theorem ofRaws_respell (choice : Respelling) (index : Nat) : (variants : List RawSchema) →
    ofRaws (RawSchema.respellVariants choice index variants) = ofRaws variants
  | [] => rfl
  | raw :: rest => by
    rw [RawSchema.respellVariants, ofRaws, ofRaws, ofRaw_respell _ raw,
      ofRaws_respell choice (index + 1) rest]

end

end Schema

namespace RawSchema

theorem getElem?_respellMembers (choice : Respelling) (first index : Nat)
    (members : List (String × RawSchema)) :
    (respellMembers choice first members)[index]? =
      members[index]?.map fun member =>
        (member.1, respell (choice.inside (.property (first + index))) member.2) := by
  induction members generalizing first index with
  | nil => rfl
  | cons member rest ih =>
    rw [respellMembers]
    cases index with
    | zero => rfl
    | succ index =>
      rw [List.getElem?_cons_succ, List.getElem?_cons_succ, ih, Nat.add_right_comm, Nat.add_assoc]

theorem getElem?_respellVariants (choice : Respelling) (first index : Nat)
    (variants : List RawSchema) :
    (respellVariants choice first variants)[index]? =
      variants[index]?.map (respell (choice.inside (.variant (first + index)))) := by
  induction variants generalizing first index with
  | nil => rfl
  | cons raw rest ih =>
    rw [respellVariants]
    cases index with
    | zero => rfl
    | succ index =>
      rw [List.getElem?_cons_succ, List.getElem?_cons_succ, ih, Nat.add_right_comm, Nat.add_assoc]

theorem getD_properties_respell (choice : Respelling) (raw : RawSchema) :
    (raw.respell choice).properties.getD [] =
      respellMembers choice 0 (raw.properties.getD []) := by
  rcases raw with ⟨_, _, _, _, _, _, _, _, _, _ | members, _, _, _⟩
  · rfl
  · rfl

theorem items_respell (choice : Respelling) (raw : RawSchema) :
    (raw.respell choice).items = raw.items.map (respell (choice.inside .items)) := by
  rcases raw with ⟨_, _, _, _, _, _, _, _, _, _, _, _ | inside, _⟩
  · rfl
  · rfl

theorem getD_oneOf_respell (choice : Respelling) (raw : RawSchema) :
    (raw.respell choice).oneOf.getD [] = respellVariants choice 0 (raw.oneOf.getD []) := by
  rcases raw with ⟨_, _, _, _, _, _, _, _, _, _, _, _, _ | variants⟩
  · rfl
  · rfl

/-- A path leads to the same node as before, respelled by the choice for the paths that go on. -/
theorem nodeAt_respell (choice : Respelling) (path : List SchemaStep) (raw : RawSchema) :
    (raw.respell choice).nodeAt path =
      (raw.nodeAt path).map (respell fun rest => choice (path ++ rest)) := by
  induction path generalizing choice raw with
  | nil => rfl
  | cons step path ih =>
    cases step with
    | property index =>
      rw [nodeAt, nodeAt, getD_properties_respell, getElem?_respellMembers, Nat.zero_add]
      cases (raw.properties.getD [])[index]? with
      | none => rfl
      | some member => exact ih _ member.2
    | items =>
      rw [nodeAt, nodeAt, items_respell]
      cases raw.items with
      | none => rfl
      | some inside => exact ih _ inside
    | variant index =>
      rw [nodeAt, nodeAt, getD_oneOf_respell, getElem?_respellVariants, Nat.zero_add]
      cases (raw.oneOf.getD [])[index]? with
      | none => rfl
      | some inside => exact ih _ inside

end RawSchema

/-- The two spellings of nullable types are interchangeable: whatever nodes of a schema are given
the other one, at any depth, the schema means the same. -/
theorem spellings_interchangeable (choice : Respelling) (raw : RawSchema) :
    Schema.ofRaw (raw.respell choice) = Schema.ofRaw raw ∧
      ∀ path, ((raw.respell choice).nodeAt path).map (fun node => (node.types, node.nullable)) =
        (raw.nodeAt path).map fun node =>
          TypeNames.respell (choice path) node.types node.nullable := by
  refine ⟨Schema.ofRaw_respell choice raw, fun path => ?_⟩
  rw [RawSchema.nodeAt_respell, Option.map_map]
  refine Option.map_congr fun node _ => ?_
  cases node
  simp [RawSchema.respell]

example :
    RawSchema.respell (fun path => if path.isEmpty then none else some ⟨false, none⟩)
        { types := some (.single "array"), nullable := some true,
          items := some { types := some (.single "string"), nullable := some true } } =
      { types := some (.single "array"), nullable := some true,
        items := some { types := some (.several ["string", "null"]) } } := rfl

end ApiForge
