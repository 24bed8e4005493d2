import ApiForge.Proofs.Dangling

/-!
The types of unions next to the plans that decode them. A marker, its variants and its plan are made
together, but of a list that may have lost variants since, and other types come in between and
after them. Main statement: in the output of a run they still tell the same story, and it is that of
the alternatives whose names were free (`unions_aligned`).
-/

namespace ApiForge

namespace UnionGroup

def nameOf (g : UnionGroup) (s : Schema) : String :=
  DerivedUnion.variantName g.owner (s.notes.title.getD "")

/-- The alternatives whose names are neither taken nor borne by an alternative before them. -/
def freeAlternatives (g : UnionGroup) (taken : List String) : List Schema :=
  (g.variants.zipIdx.filter fun p =>
    g.nameOf p.1 ∉ taken ∧ g.nameOf p.1 ∉ (g.variants.take p.2).map g.nameOf).map (·.1)

theorem keptAlternatives_cons (g : UnionGroup) (seen : List String) (s : Schema)
    (rest : List Schema) :
    keptAlternatives g.owner seen (s :: rest) =
      if g.nameOf s ∈ seen then keptAlternatives g.owner seen rest
      else s :: keptAlternatives g.owner (g.nameOf s :: seen) rest := by
  rw [keptAlternatives]
  exact if_congr List.contains_iff_mem rfl rfl

/-- What is kept alternative by alternative are the free ones: what was seen on the way are the
names that are taken and those of the alternatives before. -/
theorem keptAlternatives_eq_filter (g : UnionGroup) (taken : List String) (rest : List Schema)
    (before : List Schema) (seen : List String)
    (hseen : ∀ n, n ∈ seen ↔ n ∈ taken ∨ n ∈ before.map g.nameOf) :
    keptAlternatives g.owner seen rest =
      ((rest.zipIdx before.length).filter fun p =>
        g.nameOf p.1 ∉ taken ∧
          g.nameOf p.1 ∉ ((before ++ rest).take p.2).map g.nameOf).map (·.1) := by
  induction rest generalizing before seen with
  | nil => rfl
  | cons s rest ih =>
    have hstep : ∀ more, (∀ n, n ∈ more ↔ n ∈ taken ∨ n ∈ (before ++ [s]).map g.nameOf) →
        keptAlternatives g.owner more rest =
          ((rest.zipIdx (before.length + 1)).filter fun p =>
            g.nameOf p.1 ∉ taken ∧
              g.nameOf p.1 ∉ ((before ++ s :: rest).take p.2).map g.nameOf).map (·.1) := by
      intro more hmore
      have h := ih (before ++ [s]) more hmore
      rwa [List.length_append, List.length_singleton, List.append_assoc, List.singleton_append] at h
    have hfree : (g.nameOf s ∉ taken ∧
        g.nameOf s ∉ ((before ++ s :: rest).take before.length).map g.nameOf) ↔
          g.nameOf s ∉ seen := by
      rw [List.take_left, hseen, not_or]
    have hnext : ∀ n, (n ∈ taken ∨ n ∈ (before ++ [s]).map g.nameOf) ↔
        n ∈ seen ∨ n = g.nameOf s := by
      intro n
      rw [List.map_append, List.mem_append, List.map_singleton, List.mem_singleton, ← or_assoc,
        hseen]
    rw [keptAlternatives_cons, List.zipIdx_cons, List.filter_cons]
    -- An alternative that is left out has a name that was seen, so it adds none.
    by_cases hmem : g.nameOf s ∈ seen
    · rw [if_pos hmem, if_neg fun h => hfree.mp (of_decide_eq_true h) hmem]
      refine hstep seen fun n => ?_
      rw [hnext]
      exact ⟨.inl, fun h => h.elim id fun h => h ▸ hmem⟩
    · rw [if_neg hmem, if_pos (decide_eq_true (hfree.mpr hmem)), List.map_cons]
      refine congrArg (s :: ·) (hstep _ fun n => ?_)
      rw [hnext, List.mem_cons, or_comm]

theorem keptAlternatives_eq (g : UnionGroup) (taken : List String) :
    keptAlternatives g.owner taken g.variants = g.freeAlternatives taken :=
  g.keptAlternatives_eq_filter taken g.variants [] taken fun n => by simp

end UnionGroup

namespace ModelType

def marker? : ModelType → Option UnionMarker
  | marker m => some m
  | _ => none

def variant? : ModelType → Option Variant
  | variant v => some v
  | _ => none

def markers (types : List ModelType) : List UnionMarker := types.filterMap marker?

/-- The variants among types that belong to a marker of a name, in order. -/
def variantsOf (types : List ModelType) (base : String) : List Variant :=
  (types.filterMap variant?).filter (·.baseName == base)

variable {types : List ModelType}

theorem mem_filterMap_variant? {v : Variant} :
    v ∈ types.filterMap variant? ↔ .variant v ∈ types := by
  rw [List.mem_filterMap]
  constructor
  · rintro ⟨t, ht, h⟩
    cases t with
    | variant w =>
      cases h
      exact ht
    | _ => cases h
  · exact fun h => ⟨_, h, rfl⟩

theorem mem_markers {m : UnionMarker} : m ∈ markers types ↔ .marker m ∈ types := by
  rw [markers, List.mem_filterMap]
  constructor
  · rintro ⟨t, ht, h⟩
    cases t with
    | marker n =>
      cases h
      exact ht
    | _ => cases h
  · exact fun h => ⟨_, h, rfl⟩

theorem markers_append (types more : List ModelType) :
    markers (types ++ more) = markers types ++ markers more :=
  List.filterMap_append

theorem variantsOf_append (types more : List ModelType) (base : String) :
    variantsOf (types ++ more) base = variantsOf types base ++ variantsOf more base := by
  rw [variantsOf, List.filterMap_append, List.filter_append]
  rfl

theorem filterMap_variant?_union (m : UnionMarker) (vs : List Variant) :
    (marker m :: vs.map variant).filterMap variant? = vs := by
  have hvs : (vs.map variant).filterMap variant? = vs := by
    rw [List.filterMap_map]
    exact List.filterMap_some
  exact hvs

theorem markers_union (m : UnionMarker) (vs : List Variant) :
    markers (marker m :: vs.map variant) = [m] := by
  have hvs : (vs.map variant).filterMap marker? = [] := by
    rw [List.filterMap_map]
    exact List.filterMap_eq_nil_iff.mpr fun _ _ => rfl
  exact congrArg (m :: ·) hvs

theorem variantsOf_union {vs : List Variant} {name : String} (h : ∀ v ∈ vs, v.baseName = name)
    (m : UnionMarker) (base : String) :
    variantsOf (marker m :: vs.map variant) base = if name = base then vs else [] := by
  rw [variantsOf, filterMap_variant?_union]
  split
  · next heq =>
    rw [List.filter_eq_self]
    exact fun v hv => beq_iff_eq.mpr ((h v hv).trans heq)
  · next hne =>
    rw [List.filter_eq_nil_iff]
    exact fun v hv heq => hne ((h v hv).symm.trans (beq_iff_eq.mp heq))

/-! Boxing leaves markers alone, and of a variant everything but the marks of its fields. -/

theorem markers_boxAll (types : List ModelType) : markers (boxAll types) = markers types := by
  rw [markers, boxAll, List.filterMap_map]
  refine List.filterMap_congr fun t _ => ?_
  cases t <;> rfl

theorem variantsOf_boxAll (types : List ModelType) (base : String) :
    variantsOf (boxAll types) base = (variantsOf types base).map fun v =>
      { v with fields := v.fields.map (Field.box (.ofTypes types) v.name) } := by
  have hboxed : (boxAll types).filterMap variant? = (types.filterMap variant?).map fun v =>
      { v with fields := v.fields.map (Field.box (.ofTypes types) v.name) } := by
    rw [boxAll, List.filterMap_map, List.map_filterMap]
    refine List.filterMap_congr fun t _ => ?_
    cases t <;> rfl
  rw [variantsOf, hboxed, List.filter_map]
  rfl

end ModelType

/-- What goes into a union: its alternatives, and the names that were taken before it. -/
def Making.group? : Making → Option (UnionGroup × List String)
  | .named .. => none
  | .union group taken => some (group, taken)

/-- A variant is made of an alternative: it bears its name and the names of its properties. -/
def UnionGroup.Makes (g : UnionGroup) (s : Schema) (v : Variant) : Prop :=
  v.name = g.nameOf s ∧ v.fields.map (·.wireName) = s.properties.map (·.1)

/-- Some names are those of the types that stand before the marker of a union. -/
def TakenBefore (types : List ModelType) (union : String) (taken : List String) : Prop :=
  ∃ before m after, types = before ++ .marker m :: after ∧ m.name = union ∧
    ∀ name, name ∈ taken ↔ name ∈ before.filterMap (·.name?)

theorem TakenBefore.append {types : List ModelType} {union : String} {taken : List String}
    (h : TakenBefore types union taken) (more : List ModelType) :
    TakenBefore (types ++ more) union taken := by
  obtain ⟨before, m, after, rfl, hm, hnames⟩ := h
  exact ⟨before, m, after ++ more, List.append_assoc .., hm, hnames⟩

theorem TakenBefore.boxAll {types : List ModelType} {union : String} {taken : List String}
    (h : TakenBefore types union taken) : TakenBefore (ModelType.boxAll types) union taken := by
  obtain ⟨before, m, after, heq, hm, hnames⟩ := h
  have hbefore : (before.map (ModelType.box (.ofTypes types))).filterMap (·.name?) =
      before.filterMap (·.name?) := by
    rw [List.filterMap_map]
    exact List.filterMap_congr fun t _ => ModelType.name?_box _ t
  have hboxed := congrArg (List.map (ModelType.box (.ofTypes types))) heq
  rw [List.map_append, List.map_cons] at hboxed
  exact ⟨_, m, _, hboxed, hm, fun name => by rw [hnames, hbefore]⟩

/-- Markers, variants and plans that go together, and the alternatives that they are made of. -/
structure UnionsAligned (namespaceName : String) (groups : List (UnionGroup × List String))
    (types : List ModelType) (plans : List Plan) : Prop where
  /-- Each marker has a plan of its name, and lists the variants of the plan. -/
  markers : ModelType.markers types =
    plans.map fun p => ⟨p.union, namespaceName, p.variants.map (·.typeName)⟩
  /-- No two plans have the same name. -/
  unions : (plans.map (·.union)).Nodup
  /-- A plan has the tables of the variants that belong to its marker: the two names of each field,
  in order. -/
  tables : ∀ p ∈ plans, p.variants = (ModelType.variantsOf types p.union).map fun v =>
    ⟨v.name, v.fields.map fun f => ⟨f.plainIdent, f.wireName⟩⟩
  /-- No two variants of a plan have the same name. -/
  distinct : ∀ p ∈ plans, (p.variants.map (·.typeName)).Nodup
  /-- Every variant belongs to the marker of a plan. -/
  owned : ∀ v, .variant v ∈ types → ∃ p ∈ plans, p.union = v.baseName
  /-- The variants of a plan are made of the free alternatives of its group. -/
  made : List.Forall₂
    (fun g p => p.union = Name.unionName g.1.owner ∧
      List.Forall₂ g.1.Makes (g.1.freeAlternatives g.2) (ModelType.variantsOf types p.union))
    groups plans
  /-- The names that were taken before a group are those of the types before its marker. -/
  taken : List.Forall₂ (fun g p => TakenBefore types p.union g.2) groups plans

namespace UnionsAligned

variable {namespaceName : String} {groups : List (UnionGroup × List String)}
variable {types : List ModelType} {plans : List Plan}

theorem start : UnionsAligned namespaceName [] [] [] :=
  ⟨rfl, .nil, nofun, nofun, nofun, .nil, .nil⟩

theorem union_mem (h : UnionsAligned namespaceName groups types plans) {p : Plan} (hp : p ∈ plans) :
    p.union ∈ types.filterMap (·.name?) := by
  have hmarker : (⟨p.union, namespaceName, p.variants.map (·.typeName)⟩ : UnionMarker) ∈
      ModelType.markers types := by
    rw [h.markers]
    exact List.mem_map_of_mem hp
  exact List.mem_filterMap.mpr ⟨_, ModelType.mem_markers.mp hmarker, rfl⟩

/-- Types that are neither markers nor variants change nothing. -/
theorem append_plain (h : UnionsAligned namespaceName groups types plans) {type : ModelType}
    (hmarker : ∀ m, type ≠ .marker m) (hvariant : ∀ v, type ≠ .variant v) :
    UnionsAligned namespaceName groups (types ++ [type]) plans := by
  have hplain : type.marker? = none ∧ type.variant? = none := by
    cases type with
    | marker m => exact absurd rfl (hmarker m)
    | variant v => exact absurd rfl (hvariant v)
    | _ => exact ⟨rfl, rfl⟩
  have hmarkers : ModelType.markers (types ++ [type]) = ModelType.markers types := by
    rw [ModelType.markers, List.filterMap_append, List.filterMap_cons_none hplain.1]
    exact List.append_nil _
  have hvariants : ∀ base, ModelType.variantsOf (types ++ [type]) base =
      ModelType.variantsOf types base := by
    intro base
    rw [ModelType.variantsOf, List.filterMap_append, List.filterMap_cons_none hplain.2]
    exact congrArg _ (List.append_nil _)
  constructor
  case markers => rw [hmarkers, h.markers]
  case unions => exact h.unions
  case tables => simpa only [hvariants] using h.tables
  case distinct => exact h.distinct
  case owned =>
    intro v hv
    rcases List.mem_append.mp hv with hv | hv
    · exact h.owned v hv
    · exact absurd (List.mem_singleton.mp hv).symm (hvariant v)
  case made => simpa only [hvariants] using h.made
  case taken => exact h.taken.imp fun g p htaken => htaken.append [type]

theorem variantsOf_eq_nil (h : UnionsAligned namespaceName groups types plans) {name : String}
    (hother : ∀ p ∈ plans, name ≠ p.union) : ModelType.variantsOf types name = [] := by
  rw [ModelType.variantsOf, List.filter_eq_nil_iff]
  intro v hv heq
  obtain ⟨p, hp, hbase⟩ := h.owned v (ModelType.mem_filterMap_variant?.mp hv)
  exact hother p hp ((beq_iff_eq.mp heq).symm.trans hbase.symm)

/-- The types of a union whose name no type has go together, and apart from those before. -/
theorem append_union (h : UnionsAligned namespaceName groups types plans) {g : UnionGroup}
    {taken : List String} {vs : List Variant}
    (hfree : Name.unionName g.owner ∉ types.filterMap (·.name?))
    (hbase : ∀ v ∈ vs, v.baseName = Name.unionName g.owner) (hdistinct : (vs.map (·.name)).Nodup)
    (hmade : List.Forall₂ g.Makes (g.freeAlternatives taken) vs)
    (htaken : ∀ name, name ∈ taken ↔ name ∈ types.filterMap (·.name?)) :
    UnionsAligned namespaceName (groups ++ [(g, taken)])
      (types ++ .marker ⟨Name.unionName g.owner, namespaceName, vs.map (·.name)⟩ ::
        vs.map .variant)
      (plans ++ [Plan.ofVariants (Name.unionName g.owner) vs]) := by
  generalize hname : Name.unionName g.owner = name at hfree hbase ⊢
  have hother : ∀ p ∈ plans, name ≠ p.union := fun p hp heq => hfree (heq ▸ h.union_mem hp)
  have hnames : (Plan.ofVariants name vs).variants.map (·.typeName) = vs.map (·.name) :=
    Plan.typeNames_ofVariants name vs
  -- Where the types of a plan are looked for, only those of its own union are found.
  have hold : ∀ p ∈ plans, ModelType.variantsOf (types ++ .marker
      ⟨name, namespaceName, vs.map (·.name)⟩ :: vs.map .variant) p.union =
        ModelType.variantsOf types p.union := by
    intro p hp
    rw [ModelType.variantsOf_append, ModelType.variantsOf_union hbase, if_neg (hother p hp),
      List.append_nil]
  have hnew : ModelType.variantsOf (types ++ .marker
      ⟨name, namespaceName, vs.map (·.name)⟩ :: vs.map .variant) name = vs := by
    rw [ModelType.variantsOf_append, ModelType.variantsOf_union hbase, if_pos rfl,
      h.variantsOf_eq_nil hother, List.nil_append]
  constructor
  case markers =>
    rw [ModelType.markers_append, ModelType.markers_union, h.markers, List.map_append,
      List.map_singleton, hnames]
    rfl
  case unions =>
    refine Plan.nodup_unions_append h.unions fun hmem => ?_
    obtain ⟨p, hp, heq⟩ := List.mem_map.mp hmem
    exact hother p hp heq.symm
  case tables =>
    refine List.forall_mem_append.mpr ⟨fun p hp => ?_, List.forall_mem_singleton.mpr ?_⟩
    · rw [hold p hp]
      exact h.tables p hp
    · exact congrArg _ hnew.symm
  case distinct =>
    refine List.forall_mem_append.mpr ⟨h.distinct, List.forall_mem_singleton.mpr ?_⟩
    rw [hnames]
    exact hdistinct
  case owned =>
    intro v hv
    rcases List.mem_append.mp hv with hv | hv
    · obtain ⟨p, hp, heq⟩ := h.owned v hv
      exact ⟨p, List.mem_append_left _ hp, heq⟩
    · obtain ⟨w, hw, heq⟩ := List.mem_map.mp ((List.mem_cons.mp hv).resolve_left nofun)
      cases heq
      exact ⟨_, List.mem_append_right _ (List.mem_singleton.mpr rfl), (hbase v hw).symm⟩
  case made =>
    refine List.rel_append (forall₂_of_mem h.made fun g' p hp hmade' => ?_) (.cons ?_ .nil)
    · rwa [hold p hp]
    · exact ⟨hname.symm, hnew.symm ▸ hmade⟩
  case taken =>
    exact List.rel_append (h.taken.imp fun g p hbefore => hbefore.append _)
      (.cons ⟨types, _, _, rfl, rfl, htaken⟩ .nil)

/-- Boxing changes neither of the two names of a field. -/
theorem boxAll (h : UnionsAligned namespaceName groups types plans) :
    UnionsAligned namespaceName groups (ModelType.boxAll types) plans := by
  constructor
  case markers => rw [ModelType.markers_boxAll, h.markers]
  case unions => exact h.unions
  case tables =>
    intro p hp
    rw [h.tables p hp, ModelType.variantsOf_boxAll, List.map_map]
    refine List.map_congr_left fun v _ => ?_
    rw [Function.comp_apply, List.map_map]
    refine congrArg _ (List.map_congr_left fun f _ => ?_)
    rw [Function.comp_apply, Field.box_eq]
    rfl
  case distinct => exact h.distinct
  case owned =>
    intro v hv
    obtain ⟨t, ht, heq⟩ := ModelType.mem_boxAll.mp hv
    cases t with
    | variant w =>
      cases heq
      exact h.owned w ht
    | _ => cases heq
  case made =>
    refine h.made.imp fun g p hmade => ⟨hmade.1, ?_⟩
    rw [ModelType.variantsOf_boxAll, List.forall₂_map_right_iff]
    refine hmade.2.imp fun s v hv => ⟨hv.1, ?_⟩
    rw [← hv.2, List.map_map]
    exact List.map_congr_left fun f _ => Field.wireName_box _ _ f
  case taken => exact h.taken.imp fun g p htaken => htaken.boxAll

end UnionsAligned

namespace ModelRun

variable {config : Config} {namespaceName : String} {history : List Making} {run : ModelRun}

theorem wireNames_of_fields {names : List String} {properties : List (String × Schema)}
    {fs : List ModelField} (h : List.Forall₂ (FieldOf names) properties fs) :
    fs.map (·.wireName) = properties.map (·.1) := by
  induction h with
  | nil => rfl
  | cons hf _ ih => rw [List.map_cons, List.map_cons, hf.1, ih]

theorem baseName_of_variants {owner base : String} {names : List String}
    {alternatives : List Schema} {vs : List Variant}
    (h : List.Forall₂ (VariantOf owner base names) alternatives vs) :
    ∀ v ∈ vs, v.baseName = base := by
  induction h with
  | nil => exact nofun
  | cons hv _ ih => exact List.forall_mem_cons.mpr ⟨hv.2.1, ih⟩

theorem invariant_aligned : Invariant config namespaceName fun history run =>
    run.NamesTaken ∧
      UnionsAligned namespaceName (history.filterMap Making.group?) run.types run.plans := by
  constructor
  case start => exact ⟨fun _ => Iff.rfl, .start⟩
  case note => exact fun _ h => h
  case commit => exact fun _ h => h
  case take => exact fun _ _ h => h
  case named =>
    rintro history run key body notes type code found ⟨htaken, haligned⟩ _ hmake
    have hmade := of_makeNamed hmake
    have hgroups : (history ++ [Making.named key body]).filterMap Making.group? =
        history.filterMap Making.group? := by
      rw [List.filterMap_append]
      exact List.append_nil _
    rw [hgroups]
    exact ⟨htaken.addNamed hmake, haligned.append_plain hmade.not_marker hmade.not_variant⟩
  case union =>
    rintro history run group u found ⟨htaken, haligned⟩ hmake
    obtain ⟨hfree, vs, rfl, hvs⟩ := of_makeUnion hmake
    have hkept := forall₂_freeVariants hvs run.registry.names
    rw [UnionGroup.keptAlternatives_eq] at hkept
    have hbase : ∀ v ∈ DerivedUnion.freeVariants run.registry.names vs,
        v.baseName = Name.unionName group.owner :=
      fun v hv => baseName_of_variants hvs v ((freeVariants_sublist _ vs).subset hv)
    rw [List.filterMap_append]
    refine ⟨htaken.addUnion _, haligned.append_union (htaken.notMem_typeNames hfree) hbase
      (freeVariants_names run.registry.names vs).2 ?_ htaken⟩
    exact hkept.imp fun s v hv => ⟨hv.1, wireNames_of_fields hv.2.2⟩

/-- In the output of a run every marker has one plan. The variants that the marker lists, those that
the plan tells apart and those that belong to the marker are the same, each once and in order, and
they are made of the alternatives whose names were neither taken nor borne by one before. The tables
of the plan hold the two names of each field as it is in the end. -/
theorem unions_aligned (h : Reached config namespaceName history run) :
    UnionsAligned namespaceName (history.filterMap Making.group?) (run.finish config).types
      (run.finish config).plans :=
  (h.of_invariant invariant_aligned).2.boxAll

/-! Two unions of a record, the second with a variant of a name that the first has taken, and with
one alternative twice. -/

def alternative (title property : String) : Schema :=
  .node { title := some title } (.object [(property, .node {} (.primitive "string" none))] [])

def holderSchema : Schema :=
  .node {} (.object [
    ("a", .node {} (.oneOf [alternative "bC" "first"])),
    ("ab", .node {} (.oneOf [alternative "C" "second", alternative "D" "third",
      alternative "D" "fourth"]))] [])

def holderRun : ModelRun := generateComponents .unchecked "Demo" {} [("Holder", holderSchema)]

theorem holderRun_aligned :
    (holderRun.finish .unchecked).plans =
        [⟨"AOneOf", [⟨"abC", [⟨"first", "first"⟩]⟩]⟩,
          ⟨"AbOneOf", [⟨"abD", [⟨"third", "third"⟩]⟩]⟩] ∧
      ∃ history, Reached .unchecked "Demo" history holderRun ∧
        UnionsAligned "Demo" (history.filterMap Making.group?) (holderRun.finish .unchecked).types
          (holderRun.finish .unchecked).plans := by
  have hreached : Reached .unchecked "Demo" _ holderRun := .components _ .start
  exact ⟨by decide +kernel, _, hreached, unions_aligned hreached⟩

end ModelRun

end ApiForge
