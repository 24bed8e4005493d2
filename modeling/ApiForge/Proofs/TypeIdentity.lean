import ApiForge.Proofs.FirstMade
import ApiForge.Proofs.Planning

/-!
One name for one type, whoever asks. A resolver keeps the names it has given out, and everybody who
resolves with it adds to them; what it kept never shows in what it answers. A pointer has the name
of the schema at its end, which is the name that the generator of types claims for that schema,
since only what follows the last slash of a key counts, wherever the slash comes from. Main
statement: `answers_of_reached`.
-/

namespace ApiForge

namespace Text

/-- Only what comes after a separator can follow the last one. -/
theorem afterLast_append_cons (separator : Char) (l m : List Char) :
    afterLast separator (l ++ separator :: m) = afterLast separator m := by
  have hstops : ∀ r : List Char, (r ++ separator :: l.reverse).takeWhile (· != separator) =
      r.takeWhile (· != separator) := by
    intro r
    induction r with
    | nil => simp
    | cons c r ih => rw [List.cons_append, List.takeWhile_cons, List.takeWhile_cons, ih]
  rw [afterLast, afterLast, List.reverse_append, List.reverse_cons, List.append_assoc,
    List.singleton_append, hstops]

end Text

/-- A pointer to a key has the class name of the key. The empty key has a name of its own. -/
theorem Name.className_pointer (pointer : String) {key : String} (hkey : key ≠ "") :
    className (pointer ++ "/" ++ key) = className key := by
  have htail : sanitizeChars (pointer ++ "/" ++ key).toList = sanitizeChars key.toList := by
    have hslash : (pointer ++ "/" ++ key).toList = pointer.toList ++ '/' :: key.toList := by simp
    rw [sanitizeChars, sanitizeChars, hslash, Text.afterLast_append_cons]
  have hpointer : (pointer ++ "/" ++ key).isEmpty = false := by simp [hkey]
  have hnonempty : key.isEmpty = false := by simpa using hkey
  rw [className, className, sanitizeKey, sanitizeKey, htail, hpointer, hnonempty]

namespace Resolving

variable {α : Type} {m : Resolving α}

/-- What anybody can ask of a resolver: a name, a type with the work that it gives rise to, or the
types of a union. The values of an enumeration are not among it, for they need no names. -/
inductive IsCall : {α : Type} → Resolving α → Prop
  | className (key : String) : IsCall (className key)
  | unionName (owner : String) : IsCall (unionName owner)
  | resolve (key : String) (schema : Schema) (namespaceName : String) :
      IsCall (resolve key schema namespaceName)
  | record (name : String) (schema : Schema) (namespaceName : String) :
      IsCall (record name schema namespaceName)
  | fields (owner : String) (schema : Schema) : IsCall (fields owner schema)
  | property (key : String) (schema : Schema) : IsCall (property key schema)
  | derive (registry : Registry) (group : UnionGroup) (namespaceName : String) :
      IsCall (DerivedUnion.derive registry group namespaceName)

/-- The names that a resolver may have given out, after any calls. Every call begins with the work
of its caller. -/
inductive Reached : Name.ClassNames → Prop
  | new : Reached {}
  | call {α : Type} {m : Resolving α} {names : Name.ClassNames} (h : Reached names)
      (hm : IsCall m) (found : Discovered) : Reached (m.after ⟨names, found⟩).2.names

/-! Every call comes to the same wherever it starts. -/

theorem steady_unionName (owner : String) : Steady (unionName owner) :=
  (Steady.className owner).bind fun _ => .pure _

theorem steady_fieldsFrom (owner : String) (required used : List String)
    (properties : List (String × Schema)) : Steady (fieldsFrom owner required used properties) := by
  induction properties generalizing used with
  | nil => exact .pure _
  | cons p rest ih =>
    rw [fieldsFrom]
    exact (steady_property p.1 p.2).bind fun _ => (ih _).bind fun _ => .pure _

theorem steady_fields (owner : String) (schema : Schema) : Steady (fields owner schema) := by
  rw [fields]
  split
  · exact steady_fieldsFrom _ _ _ _
  · exact .pure _

theorem steady_record (name : String) (schema : Schema) (namespaceName : String) :
    Steady (record name schema namespaceName) :=
  (steady_fields name schema).bind fun _ => .pure _

theorem steady_resolve (key : String) (schema : Schema) (namespaceName : String) :
    Steady (resolve key schema namespaceName) := by
  have hrecord : Steady do
      return ModelType.record (← record (← className key) schema namespaceName) :=
    (Steady.className key).bind fun _ => (steady_record _ _ _).bind fun _ => .pure _
  rw [resolve]
  split
  · exact hrecord
  · exact hrecord
  · exact (Steady.className key).bind fun _ => .pure _
  · exact steady_property key schema

theorem steady_variantsFrom (owner baseName namespaceName : String) (index : Nat)
    (schemas : List Schema) :
    Steady (DerivedUnion.variantsFrom owner baseName namespaceName index schemas) := by
  induction schemas generalizing index with
  | nil => exact .pure _
  | cons s rest ih =>
    rw [DerivedUnion.variantsFrom]
    exact (Steady.lift _).bind fun _ => (steady_fields _ s).bind fun _ => (ih _).bind fun _ =>
      .pure _

theorem steady_derive (registry : Registry) (group : UnionGroup) (namespaceName : String) :
    Steady (DerivedUnion.derive registry group namespaceName) := by
  refine (steady_unionName group.owner).bind fun name => ?_
  split
  · exact .pure _
  · exact (steady_variantsFrom _ _ _ _ _).bind fun _ => .pure _

theorem IsCall.steady (h : IsCall m) : Steady m := by
  cases h with
  | className key => exact .className key
  | unionName owner => exact steady_unionName owner
  | resolve key schema namespaceName => exact steady_resolve key schema namespaceName
  | record name schema namespaceName => exact steady_record name schema namespaceName
  | fields owner schema => exact steady_fields owner schema
  | property key schema => exact steady_property key schema
  | derive registry group namespaceName => exact steady_derive registry group namespaceName

/-- No sequence of calls leaves a name that the derivation would not answer. -/
theorem Reached.faithful {names : Name.ClassNames} (h : Reached names) : names.Faithful := by
  induction h with
  | new => exact nofun
  | call _ hm found ih =>
    obtain ⟨_, _, hcomes⟩ := hm.steady
    exact (hcomes ⟨_, found⟩ ih).2.2

/-- What was named and found before does not enter into what a resolution comes to. -/
theorem Steady.after_eq (h : Steady m) {names : Name.ClassNames} (hnames : names.Faithful)
    (found : Discovered) :
    (m.after ⟨names, found⟩).1 = (m.after {}).1 ∧
      (m.after ⟨names, found⟩).2.found = found ++ (m.after {}).2.found := by
  obtain ⟨r, d, hcomes⟩ := h
  obtain ⟨hresult, hfound, _⟩ := hcomes ⟨names, found⟩ hnames
  obtain ⟨hfresh, hfreshFound, _⟩ := hcomes {} nofun
  have hd : (m.after {}).2.found = d := hfreshFound
  exact ⟨hresult.trans hfresh.symm, hd ▸ hfound⟩

end Resolving

namespace ModelRun

variable {config : Config} {namespaceName : String}

/-- A schema that can be made takes its name, or finds it taken; one that cannot takes none. -/
theorem registry_generateNamed (run : ModelRun) (key : String) (declared body : Schema) :
    (generateNamed config namespaceName run key declared body).registry =
      if Candidate.isMakeable config namespaceName ⟨key, declared, body⟩ then
        run.registry.claim (Name.className key)
      else run.registry := by
  rw [Candidate.isMakeable, Candidate.name]
  rcases generateNamed_cases config namespaceName run key declared body with
    ⟨htaken, heq⟩ | ⟨_, ⟨p, hmake, heq⟩ | ⟨type, code, found, hmake, heq⟩⟩
  · rw [heq, Registry.claim, if_pos htaken, ite_self]
  · rw [heq, hmake]
    rfl
  · rw [heq, hmake]
    rfl

theorem types_generateNamed (run : ModelRun) (key : String) (declared body : Schema) :
    ∀ t ∈ (generateNamed config namespaceName run key declared body).types,
      t ∈ run.types ∨ t.name? = some (Name.className key) := by
  intro t ht
  rcases generateNamed_cases config namespaceName run key declared body with
    ⟨_, heq⟩ | ⟨_, ⟨p, _, heq⟩ | ⟨type, code, found, hmake, heq⟩⟩
  · rw [heq] at ht
    exact .inl ht
  · rw [heq] at ht
    exact .inl ht
  · rw [heq] at ht
    have hmem : t ∈ run.types ++ [type] := ht
    refine (List.mem_append.mp hmem).imp_right fun hnew => ?_
    rw [List.mem_singleton.mp hnew]
    exact (of_makeNamed hmake).name_eq

/-- Among the schemas of a document, one with a key takes a name: in every run it takes the name if
its type can be made, no other name in any case, and its type bears the name. -/
structure Claims (config : Config) (namespaceName key name : String) : Prop where
  registry : ∀ run schema, (generateComponent config namespaceName run key schema).registry =
    if (componentCandidates config key schema).any (·.isMakeable config namespaceName) then
      run.registry.claim name
    else run.registry
  types : ∀ run schema, ∀ t ∈ (generateComponent config namespaceName run key schema).types,
    t ∈ run.types ∨ t.name? = some name

theorem claims_className (config : Config) (namespaceName key : String) :
    Claims config namespaceName key (Name.className key) where
  registry run schema := by
    rw [generateComponent, componentCandidates]
    cases config.isSkipped (Name.className key) with
    | true => rfl
    | false =>
      cases bodyOf schema with
      | none => rfl
      | some body => simpa using registry_generateNamed run key schema body
  types run schema := by
    rw [generateComponent]
    split
    · exact fun _ ht => .inl ht
    · split
      · exact types_generateNamed run key schema _
      · exact fun _ ht => .inl ht

end ModelRun

namespace Resolving

/-- A pointer is resolved to a name, with no work, whether as a property or as a schema. -/
structure PointsTo (names : Name.ClassNames) (target name : String) : Prop where
  property : ∀ key notes found,
    ((property key (.node notes (.reference target))).after ⟨names, found⟩).1 =
        .ok (.reference name) ∧
      ((property key (.node notes (.reference target))).after ⟨names, found⟩).2.found = found
  resolve : ∀ key notes namespaceName found,
    ((resolve key (.node notes (.reference target)) namespaceName).after ⟨names, found⟩).1 =
        .ok (.reference name) ∧
      ((resolve key (.node notes (.reference target)) namespaceName).after ⟨names, found⟩).2.found =
        found

theorem after_property_reference (key target : String) (notes : Annotations) (s : Scope) :
    (property key (.node notes (.reference target))).after s =
      (.ok (.reference (s.names.nameOf target).1),
        { s with names := (s.names.nameOf target).2 }) := by
  rw [property, propertyOfShape]
  rfl

theorem pointsTo_className {names : Name.ClassNames} (h : names.Faithful) (target : String) :
    PointsTo names target (Name.className target) := by
  have hcall : ∀ key notes found,
      ((property key (.node notes (.reference target))).after ⟨names, found⟩).1 =
          .ok (.reference (Name.className target)) ∧
        ((property key (.node notes (.reference target))).after ⟨names, found⟩).2.found =
          found := by
    intro key notes found
    rw [after_property_reference, (Name.ClassNames.nameOf_of_faithful h target).1]
    exact ⟨rfl, rfl⟩
  exact ⟨hcall, fun key notes _ found => hcall key notes found⟩

/-- Calls do not show in later answers, and a pointer to a key resolves to the name that the
generator of types claims for the schema with that key. -/
theorem answers_of_reached {names : Name.ClassNames} (h : Reached names) :
    (∀ {α : Type} (m : Resolving α), IsCall m → ∀ found,
        (m.after ⟨names, found⟩).1 = (m.after {}).1 ∧
          (m.after ⟨names, found⟩).2.found = found ++ (m.after {}).2.found) ∧
      ∀ key ≠ "", ∀ pointer,
        PointsTo names (pointer ++ "/" ++ key) (Name.className key) ∧
          ∀ config namespaceName,
            ModelRun.Claims config namespaceName key (Name.className key) := by
  refine ⟨fun m hm found => hm.steady.after_eq h.faithful found, fun key hkey pointer => ⟨?_, ?_⟩⟩
  · rw [← Name.className_pointer pointer hkey]
    exact pointsTo_className h.faithful _
  · exact fun config namespaceName => ModelRun.claims_className config namespaceName key

/-- A pointer to a key with a slash and a dot, once the same key was named and a list was resolved
whose items have the name of the schema at its end. -/
theorem answers_of_calls :
    ∃ names, Reached names ∧ names.size = 2 ∧
      PointsTo names "#/components/schemas/v1/user.Profile" "Profile" ∧
      ∀ config namespaceName,
        ModelRun.Claims config namespaceName "v1/user.Profile" "Profile" := by
  have hname : Name.className "v1/user.Profile" = "Profile" := by decide
  have hreached := (Reached.new.call (.className "v1/user.Profile") {}).call
    (.property "friends" (.node {} (.array (some (.node {} (.reference "#/x/Profile")))))) {}
  refine ⟨_, hreached, by decide, ?_⟩
  rw [← hname]
  exact (answers_of_reached hreached).2 "v1/user.Profile" (by decide) "#/components/schemas"

end Resolving

end ApiForge
