import ApiForge.Model.Type

/-!
Telling the variants of a union apart by their properties. A value has no mark that says which
variant it is: the first of its keys that belongs to any variant decides, and it decides for the
first variant that it belongs to.
-/

namespace ApiForge

/-- A field of a variant by its two names. -/
structure FieldKey where
  /-- The identifier in the code. -/
  name : String
  /-- The name on the wire. -/
  wire : String
  deriving Repr, DecidableEq

structure VariantTable where
  typeName : String
  fields : List FieldKey
  deriving Repr, DecidableEq

namespace VariantTable

/-- Whether a key is one of the names of a field. -/
def holds (t : VariantTable) (key : String) : Bool :=
  t.fields.any fun f => f.name == key || f.wire == key

/-- The wire name that a key stands for. A name in the code comes before a name on the wire. -/
def wireFor (t : VariantTable) (key : String) : Option String :=
  ((t.fields.find? (·.name == key)).or (t.fields.find? (·.wire == key))).map (·.wire)

def ofVariant (v : Variant) : VariantTable :=
  ⟨v.name, v.fields.map fun f => ⟨f.plainIdent, f.wireName⟩⟩

end VariantTable

/-- The variants of a union in order. -/
structure Plan where
  /-- The name of the marker. -/
  union : String
  variants : List VariantTable
  deriving Repr, DecidableEq

namespace Plan

/-- The plan of a union with some variants. -/
def ofVariants (union : String) (variants : List Variant) : Plan :=
  ⟨union, variants.map VariantTable.ofVariant⟩

theorem typeNames_ofVariants (union : String) (variants : List Variant) :
    (ofVariants union variants).variants.map (·.typeName) = variants.map (·.name) :=
  List.map_map

/-- A plan with a name of its own keeps the names of plans distinct. -/
theorem nodup_unions_append {plans : List Plan} (h : (plans.map (·.union)).Nodup) {p : Plan}
    (hnew : p.union ∉ plans.map (·.union)) : ((plans ++ [p]).map (·.union)).Nodup := by
  rw [List.map_append, List.nodup_append]
  refine ⟨h, List.nodup_cons.mpr ⟨nofun, .nil⟩, ?_⟩
  rintro name hname other hother rfl
  rw [List.map_singleton, List.mem_singleton] at hother
  exact hnew (hother ▸ hname)

/-- The first variant that a key belongs to. -/
def select (p : Plan) (key : String) : Option VariantTable := p.variants.find? (·.holds key)

end Plan

end ApiForge
