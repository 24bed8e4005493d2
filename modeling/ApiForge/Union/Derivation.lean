import ApiForge.Model.Resolution
import ApiForge.Union.Plan

/-!
The types of a union: a marker named after the property that holds it, and a variant for each
alternative, named after the property and the title of the alternative.
-/

namespace ApiForge

/-- What a union gives rise to. -/
structure DerivedUnion where
  marker : UnionMarker
  variants : List Variant
  plan : Plan

namespace DerivedUnion

def variantName (owner title : String) : String :=
  Name.sanitizeKey owner ++ Name.sanitizeKey title

/-- The union of a marker's name with some variants. -/
def ofVariants (name namespaceName : String) (variants : List Variant) : DerivedUnion :=
  { marker := { name, namespaceName, variants := variants.map (·.name) }
    variants
    plan := Plan.ofVariants name variants }

/-- The title of an alternative, which must have one. -/
def titleOf (owner : String) (index : Nat) (schema : Schema) : Except Problem String :=
  match schema.notes.title with
  | some title => if title.isEmpty then .error (.missingVariantTitle owner index) else .ok title
  | none => .error (.missingVariantTitle owner index)

/-- The variants of alternatives, the first of which has a number. -/
def variantsFrom (owner baseName namespaceName : String) (index : Nat) :
    List Schema → Resolving (List Variant)
  | [] => return []
  | schema :: rest => do
    let title ← Resolving.lift (titleOf owner index schema)
    let name := variantName owner title
    let fields ← Resolving.fields name schema
    let more ← variantsFrom owner baseName namespaceName (index + 1) rest
    return { name, namespaceName, baseName, fields, description := schema.notes.description } ::
      more

/-- The types of a union; none when its name is taken, so that a union met again is derived
once. -/
def derive (registry : Registry) (group : UnionGroup) (namespaceName : String) :
    Resolving (Option DerivedUnion) := do
  let name ← Resolving.unionName group.owner
  if registry.contains name then return none
  else
    let variants ← variantsFrom group.owner name namespaceName 0 group.variants
    return some (ofVariants name namespaceName variants)

/-- The variants whose names are neither taken nor borne by one before them. -/
def freeVariants (taken : List String) : List Variant → List Variant
  | [] => []
  | v :: rest =>
    if taken.contains v.name then freeVariants taken rest
    else v :: freeVariants (v.name :: taken) rest

/-- The union without the variants whose names are not free. -/
def restrict (u : DerivedUnion) (registry : Registry) : DerivedUnion :=
  ofVariants u.marker.name u.marker.namespaceName (freeVariants registry.names u.variants)

end DerivedUnion

end ApiForge
