import ApiForge.Model.ReferenceGraph

/-!
Types that hold each other by value. A chain of such references that leads back to where it began
would make a type of infinite size, so every field on such a chain is held through a pointer.
References inside lists are behind a pointer already and do not count.
-/

namespace ApiForge

/-- The field, held through a pointer if its reference lies on a chain that leads back. -/
def Field.box (g : ReferenceGraph) (owner : String) (f : ModelField) : ModelField :=
  match f.inlineTarget with
  | some target => if g.closesCycle owner target then { f with boxed := true } else f
  | none => f

namespace ModelType

/-- The type with the fields held through pointers that need it. -/
def box (g : ReferenceGraph) : ModelType → ModelType
  | record r => record { r with fields := r.fields.map (Field.box g r.name) }
  | variant v => variant { v with fields := v.fields.map (Field.box g v.name) }
  | t => t

/-- The number of fields that are held through pointers. -/
def boxedCount (t : ModelType) : Nat := (t.fields.filter (·.boxed)).length

/-- The types with their fields boxed. -/
def boxAll (types : List ModelType) : List ModelType :=
  types.map (box (ReferenceGraph.ofTypes types))

/-- The names of the types that change when fields are boxed. -/
def boxChanges (types : List ModelType) : List String :=
  (types.zip (boxAll types)).filterMap fun (before, after) =>
    if before.boxedCount = after.boxedCount then none else after.name?

end ModelType

end ApiForge
