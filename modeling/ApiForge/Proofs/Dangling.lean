import ApiForge.Proofs.Boxing
import ApiForge.Proofs.TakenNames

/-!
References to types that were to be made from a part of a schema. A type may fail to be made after
another one has named it; the end of a run then notes what is missing. Main statement: a name that
a field got from a part of its own property is that of a type, or is noted as missing together with
the type that the field belongs to (`inline_references_accounted`).
-/

namespace ApiForge

/-- The alternatives of a union whose variants are kept where some names are taken. -/
def keptAlternatives (owner : String) (taken : List String) : List Schema → List Schema
  | [] => []
  | s :: rest =>
    let name := DerivedUnion.variantName owner (s.notes.title.getD "")
    if taken.contains name then keptAlternatives owner taken rest
    else s :: keptAlternatives owner (name :: taken) rest

/-- The schemas whose properties the records, enumerations and variants of a making come from. -/
def Making.bodies : Making → List Schema
  | .named _ body => [body]
  | .union group taken => keptAlternatives group.owner taken group.variants

theorem forall₂_of_mem {α β : Type} {R S : α → β → Prop} {l : List α} {m : List β}
    (h : List.Forall₂ R l m) (himp : ∀ a, ∀ b ∈ m, R a b → S a b) : List.Forall₂ S l m := by
  induction h with
  | nil => exact .nil
  | cons hab _ ih =>
    refine .cons (himp _ _ List.mem_cons_self hab) (ih fun a b hb => ?_)
    exact himp a b (List.mem_cons_of_mem _ hb)

theorem forall₂_freeVariants {owner baseName : String} {names : List String}
    {alternatives : List Schema} {vs : List Variant}
    (h : List.Forall₂ (VariantOf owner baseName names) alternatives vs) (taken : List String) :
    List.Forall₂ (VariantOf owner baseName names) (keptAlternatives owner taken alternatives)
      (DerivedUnion.freeVariants taken vs) := by
  induction h generalizing taken with
  | nil => exact .nil
  | cons hv _ ih =>
    rw [keptAlternatives, DerivedUnion.freeVariants, hv.1]
    split
    · exact ih taken
    · exact .cons hv (ih _)

namespace ModelType

def unmarked (types : List ModelType) : List ModelType := types.filter fun t => !t.isMarker

theorem unmarked_append (types more : List ModelType) :
    unmarked (types ++ more) = unmarked types ++ unmarked more :=
  List.filter_append ..

theorem unmarked_variants (vs : List Variant) :
    unmarked (vs.map variant) = vs.map variant := by
  rw [unmarked, List.filter_eq_self]
  intro t ht
  obtain ⟨v, _, rfl⟩ := List.mem_map.mp ht
  rfl

theorem unmarked_boxAll (types : List ModelType) :
    unmarked (boxAll types) = (unmarked types).map (box (ReferenceGraph.ofTypes types)) := by
  rw [unmarked, boxAll, List.filter_map, unmarked]
  refine congrArg _ (List.filter_congr fun t _ => ?_)
  rw [Function.comp_apply, isMarker_box]

theorem mem_fieldReferences {fs : List ModelField} {f : ModelField} (hf : f ∈ fs) {name : String}
    (hn : name ∈ f.type.referencedNames) : name ∈ fieldReferences fs := by
  induction fs with
  | nil => cases hf
  | cons g rest ih =>
    obtain ⟨gname, wireName, type, required, nullable, deprecated, description, default, boxed⟩ := g
    rw [fieldReferences, List.mem_append]
    rcases List.mem_cons.mp hf with rfl | hf
    · exact .inl hn
    · exact .inr (ih hf)

/-- A type points at the names in its fields. -/
theorem mem_referencedNames {t : ModelType} {f : ModelField} (hf : f ∈ t.fields) {name : String}
    (hn : name ∈ f.type.referencedNames) : name ∈ t.referencedNames := by
  cases t with
  | record r =>
    obtain ⟨rname, namespaceName, fields, description, deprecated⟩ := r
    rw [referencedNames]
    exact mem_fieldReferences hf hn
  | variant v =>
    obtain ⟨vname, namespaceName, baseName, fields, description⟩ := v
    rw [referencedNames]
    exact mem_fieldReferences hf hn
  | _ => cases hf

end ModelType

/-- The name is that of a type, or it is noted that the type it points from misses it. -/
def Models.Accounts (models : Models) (owner target : String) : Prop :=
  (∃ t ∈ models.types, t.name? = some target) ∨
    .unresolvedForwardReference owner target ∈ models.issues ∨
    .skippedSchemaReference owner target ∈ models.issues

namespace ModelRun

variable {config : Config} {namespaceName : String} {history : List Making} {run : ModelRun}

/-- The fields of a type are those of the properties of a schema, and the names that they got from
parts of the properties are among some names. -/
def FieldsOf (names : List String) (body : Schema) (t : ModelType) : Prop :=
  List.Forall₂ (FieldOf names) body.properties t.fields

theorem mem_forward_commit {run : ModelRun} {found : Discovered} {name : String} :
    name ∈ (run.commit found).forward ↔ name ∈ run.forward ∨ name ∈ found.names := by
  simp only [commit, Discovered.names, List.mem_append, or_assoc]

/-- What was made so far comes from its schemas, with every name from a part of a property put
forward. -/
def Forwarded (history : List Making) (run : ModelRun) : Prop :=
  List.Forall₂ (FieldsOf run.forward) (history.flatMap Making.bodies)
    (ModelType.unmarked run.types)

theorem Forwarded.commit (h : Forwarded history run) (found : Discovered) :
    Forwarded history (run.commit found) :=
  h.imp fun _ _ hfields => hfields.imp fun _ _ hf =>
    hf.mono fun _ hn => mem_forward_commit.mpr (.inl hn)

/-- Making more adds the schemas to the history and the types to the run, one for one. -/
theorem Forwarded.append (h : Forwarded history run) {making : Making} (found : Discovered)
    (more : List ModelType)
    (hmore : List.Forall₂ (FieldsOf found.names) making.bodies (ModelType.unmarked more)) :
    List.Forall₂ (FieldsOf (run.commit found).forward)
      ((history ++ [making]).flatMap Making.bodies) (ModelType.unmarked (run.types ++ more)) := by
  rw [List.flatMap_append, ModelType.unmarked_append, List.flatMap_singleton]
  apply List.rel_append (h.commit found)
  refine hmore.imp fun _ _ hfields => hfields.imp fun _ _ hf => hf.mono ?_
  exact fun _ hn => mem_forward_commit.mpr (.inr hn)

theorem invariant_forwarded : Invariant config namespaceName Forwarded := by
  constructor
  case start => exact .nil
  case note => exact fun _ h => h
  case commit => exact fun found h => h.commit found
  case take => exact fun _ _ h => h
  case named =>
    intro history run key body notes type code found h _ hmake
    have hmade := of_makeNamed hmake
    refine h.append found [type] ?_
    have hmarker : type.isMarker = false := by
      cases type with
      | marker m => exact absurd rfl (hmade.not_marker m)
      | _ => rfl
    rw [ModelType.unmarked, List.filter_cons, hmarker]
    exact .cons hmade.fields .nil
  case union =>
    intro history run group u found h hmake
    obtain ⟨_, vs, rfl, hvs⟩ := of_makeUnion hmake
    refine h.append found _ ?_
    have hkept := forall₂_freeVariants hvs run.registry.names
    have hunmarked : ∀ (m : UnionMarker) (ws : List Variant),
        ModelType.unmarked (.marker m :: ws.map .variant) = ws.map .variant :=
      fun _ ws => ModelType.unmarked_variants ws
    rw [hunmarked, List.forall₂_map_right_iff]
    exact hkept.imp fun _ _ hv => hv.2.2

theorem accounts_of_forward (h : Reached config namespaceName history run) {t : ModelType}
    (ht : t ∈ run.types) {owner target : String} (howner : t.name? = some owner)
    (htarget : target ∈ t.referencedNames) (hforward : target ∈ run.forward) :
    Models.Accounts (run.finish config) owner target := by
  cases htaken : run.registry.contains target with
  | true =>
    obtain ⟨u, hu, hname⟩ := (contains_registry_iff h target).mp htaken
    have hboxed : u.box (ReferenceGraph.ofTypes run.types) ∈ (run.finish config).types :=
      ModelType.mem_boxAll.mpr ⟨u, hu, rfl⟩
    exact .inl ⟨_, hboxed, by rw [ModelType.name?_box, hname]⟩
  | false =>
    have hnoted : ∀ p, run.danglingProblem? config owner target = some p →
        p ∈ (run.finish config).issues := by
      intro p hp
      refine List.mem_append_right _ (List.mem_flatMap.mpr ⟨t, ht, ?_⟩)
      rw [howner]
      exact List.mem_filterMap.mpr ⟨target, htarget, hp⟩
    rw [danglingProblem?, htaken] at hnoted
    -- A name that is not taken is noted, as skipped or as put forward in vain.
    right
    cases hskip : config.isSkipped target with
    | true =>
      right
      exact hnoted _ (by simp [hskip])
    | false =>
      left
      exact hnoted _ (by simp [hskip, hforward])

/-- Unless its property points out, a field names types that are there or are noted as missing. -/
def FieldAccounted (models : Models) (owner : ModelType) (p : String × Schema) (f : ModelField) :
    Prop :=
  f.wireName = p.1 ∧ (p.2.pointsOut = false → ∀ target ∈ f.type.referencedNames,
    ∃ name, owner.name? = some name ∧ models.Accounts name target)

/-- Records, enumerations and variants come from their schemas one for one, and none of their fields
names a type made from a part of its property that is neither there nor noted as missing. -/
theorem inline_references_accounted (h : Reached config namespaceName history run) :
    List.Forall₂ (fun body t => List.Forall₂ (FieldAccounted (run.finish config) t)
        body.properties t.fields)
      (history.flatMap Making.bodies) (ModelType.unmarked (run.finish config).types) := by
  have hforwarded : Forwarded history run := h.of_invariant invariant_forwarded
  have htypes : ModelType.unmarked (run.finish config).types =
      (ModelType.unmarked run.types).map (ModelType.box (ReferenceGraph.ofTypes run.types)) :=
    ModelType.unmarked_boxAll run.types
  rw [htypes, List.forall₂_map_right_iff]
  refine forall₂_of_mem hforwarded fun body t ht hfields => ?_
  have hmem : t ∈ run.types := (List.mem_filter.mp ht).1
  rw [ModelType.fields_box, List.forall₂_map_right_iff]
  refine forall₂_of_mem hfields fun p f hf hfield => ?_
  obtain ⟨owner, howner⟩ := ModelType.name?_of_mem_fields hf
  refine ⟨by rw [Field.wireName_box, hfield.1], fun hpoints target htarget => ?_⟩
  rw [Field.type_box] at htarget
  refine ⟨owner, by rw [ModelType.name?_box, howner], ?_⟩
  exact accounts_of_forward h hmem howner (ModelType.mem_referencedNames hf htarget)
    (hfield.2 hpoints target htarget)

/-! A record that names a type that cannot be made and one that can. -/

def petSchema : Schema :=
  .node {} (.object [
    ("owner", .node {} (.object [("fee", .node {} (.primitive "money" none))] [])),
    ("tags", .node {} (.array (some
      (.node {} (.object [("label", .node {} (.primitive "string" none))] [])))))] [])

def petRun : ModelRun := generateComponents .unchecked "Demo" {} [("Pet", petSchema)]

theorem petRun_accounted :
    (petRun.finish .unchecked).issues =
        [.unsupportedSchemaKind "money" "fee", .unresolvedForwardReference "Pet" "Owner"] ∧
      ∃ history, Reached .unchecked "Demo" history petRun ∧
        List.Forall₂ (fun body t => List.Forall₂ (FieldAccounted (petRun.finish .unchecked) t)
            body.properties t.fields)
          (history.flatMap Making.bodies)
          (ModelType.unmarked (petRun.finish .unchecked).types) := by
  have hreached : Reached .unchecked "Demo" _ petRun := .components _ .start
  exact ⟨by decide +kernel, _, hreached, inline_references_accounted hreached⟩

end ModelRun

end ApiForge
