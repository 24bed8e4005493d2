import ApiForge.Proofs.BodyNames
import ApiForge.Proofs.VariantIdent
import ApiForge.Proofs.VerbName

/-!
The scopes of generated code: the variants of an enumeration, the methods of a client and the
arguments of a method. In each of them names are given out one after the other, so that no two are
written alike. Variants and methods do not begin like a raw identifier, and no method is named like
the function that makes a client, since its name begins with a verb. Arguments may want keywords,
and the number that one of them gets may make the identifier of another. Main statement: variants
and methods are always different identifiers, and arguments are exactly when no numbers collide
(`scopes_apart_iff`).
-/

namespace ApiForge

namespace Emit

open Name Text

theorem head?_variantIdent (value : String) : (variantIdent value).toList.head? ≠ some 'r' := by
  intro h
  obtain ⟨rest, hchars⟩ := List.head?_eq_some_iff.mp h
  have hsmall : isLowercase 'r' = true := by decide
  have hcapital : toUppercase 'r' ≠ ['r'] := by decide
  exact hcapital ((settled_variantIdent value).head 'r' rest hchars hsmall)

theorem apart_enumIdents (values : List String) : Apart (enumIdents values) := by
  refine apart_of_head (nodup_freshAll [] _).1 fun ident h => ?_
  obtain ⟨wanted, hwanted, k, rfl⟩ := exists_candidate_of_mem_freshAll h
  obtain ⟨value, -, rfl⟩ := List.mem_map.mp hwanted
  rw [head?_candidate (toList_variantIdent_ne_nil value)]
  exact head?_variantIdent value

end Emit

namespace Client

open Name

/-! The methods of a client. -/

/-- Methods whose names were given out one after the other. -/
def NamesGiven (methods : List Method) : Prop :=
  methods.map (·.name) = freshAll [] (methods.map (·.endpoint.wantedName))

namespace NamesGiven

variable {info : Info} {w : Workshop}

theorem addMethod (h : NamesGiven w.methods) {m : Method} (hname : m.name = m.endpoint.wantedName) :
    NamesGiven (w.addMethod m).methods := by
  rw [NamesGiven] at h
  rw [NamesGiven, Workshop.addMethod, List.map_append, List.map_append, freshAll_append, ← h]
  simp only [List.map_singleton, List.nil_append, freshAll, hname]

theorem addEndpoint (h : NamesGiven w.methods) (e : Endpoint) :
    NamesGiven (w.addEndpoint info e).methods := by
  rcases ho : (planMethod info e).outcome with p | ⟨_ | m, found⟩
  · simpa only [Workshop.addEndpoint, ho] using h
  · simpa only [Workshop.addEndpoint, ho] using h
  · have hname : m.name = m.endpoint.wantedName := by
      rw [name_of_planMethod ho, endpoint_of_planMethod ho]
    simpa only [Workshop.addEndpoint, ho] using h.addMethod hname

theorem foldl (h : NamesGiven w.methods) (endpoints : List Endpoint) :
    NamesGiven (endpoints.foldl (Workshop.addEndpoint info) w).methods := by
  induction endpoints generalizing w with
  | nil => exact h
  | cons e rest ih => exact ih (h.addEndpoint e)

variable {methods : List Method}

theorem givenOut (h : NamesGiven methods) :
    GivenOut (methods.map (·.endpoint.wantedName)) (methods.map (·.name)) := by
  rw [h]
  exact givenOut_freshAll _

/-- The name of a method begins with the verb of its operation. -/
theorem exists_verb (h : NamesGiven methods) {name : String} (hname : name ∈ methods.map (·.name)) :
    ∃ (verb : Verb) (rest : String), name = verb.member ++ rest := by
  rw [h] at hname
  obtain ⟨wanted, hwanted, k, rfl⟩ := exists_candidate_of_mem_freshAll hname
  obtain ⟨m, -, rfl⟩ := List.mem_map.mp hwanted
  exact ⟨m.endpoint.verb, exists_candidate_verb m.endpoint.verb _ k⟩

theorem apart (h : NamesGiven methods) : Apart (methods.map (·.name)) := by
  refine apart_of_head (h ▸ (nodup_freshAll [] _).1) fun name hname => ?_
  obtain ⟨verb, rest, rfl⟩ := h.exists_verb hname
  have hverb : verb.member.toList ≠ [] ∧ verb.member.toList.head? ≠ some 'r' := by
    cases verb <;> decide
  rw [String.toList_append, List.head?_append_of_ne_nil _ hverb.1]
  exact hverb.2

/-- No method has the name of the function that makes a client. -/
theorem new_notMem (h : NamesGiven methods) : "new" ∉ methods.map (·.name) := by
  intro hnew
  obtain ⟨verb, rest, heq⟩ := h.exists_verb hnew
  have hverb : ¬ verb.member.toList <+: "new".toList := by
    cases verb <;> decide
  refine hverb ⟨rest.toList, ?_⟩
  rw [heq, String.toList_append]

end NamesGiven

/-! The arguments of a method. -/

theorem escaped_wantedIdent {name : String} (h : Escaped name) : Escaped (wantedIdent name) := by
  have hreserved : ∀ n ∈ reservedIdents,
      '#' ∉ (n ++ "_param").toList ∧ n ++ "_param" ∉ rawableKeywords := by
    decide
  rw [wantedIdent]
  split
  · next hname =>
    obtain ⟨hunmarked, hfree⟩ := hreserved name (List.contains_iff_mem.mp hname)
    exact .plain hunmarked hfree
  · exact h

theorem escaped_bodyStem (schema : Schema) : Escaped (bodyStem schema) := by
  rw [bodyStem]
  split
  · exact escaped_snakeIdent _
  · exact .plain (by decide) (by decide)

theorem escaped_of_mem_askedNames {e : Endpoint} {name : String} (h : name ∈ e.askedNames) :
    Escaped name := by
  rcases List.mem_append.mp h with h | h
  · obtain ⟨p, -, rfl⟩ := List.mem_map.mp h
    exact escaped_snakeIdent p.name
  · obtain ⟨schema, -, rfl⟩ := List.mem_map.mp h
    exact escaped_bodyStem schema

def Endpoint.wantedIdents (e : Endpoint) : List String := e.askedNames.map wantedIdent

theorem escaped_of_mem_wantedIdents {e : Endpoint} {name : String} (h : name ∈ e.wantedIdents) :
    Escaped name := by
  obtain ⟨asked, hasked, rfl⟩ := List.mem_map.mp h
  exact escaped_wantedIdent (escaped_of_mem_askedNames hasked)

/-- The arguments of a method are given out their names in the order in which they are declared, and
are different identifiers exactly when no numbers collide. -/
structure ArgumentsNamed (m : Method) : Prop where
  given : ∃ declared, m.arguments = requiredFirst declared ∧
    GivenOut m.endpoint.wantedIdents (declared.map (·.ident))
  nodup : (m.arguments.map (·.ident)).Nodup
  apart_iff : Apart (m.arguments.map (·.ident)) ↔
    ¬ NumbersCollide m.endpoint.wantedIdents (m.arguments.map (·.ident))

theorem argumentsNamed_of_planMethod {info : Info} {e : Endpoint} {m : Method} {found : Discovered}
    (h : (planMethod info e).outcome = .ok (some m, found)) : ArgumentsNamed m := by
  obtain ⟨declared, harguments, hidents⟩ := exists_declared h
  rw [← endpoint_of_planMethod h, ← Endpoint.wantedIdents] at hidents
  have hperm : (m.arguments.map (·.ident)).Perm (declared.map (·.ident)) :=
    harguments ▸ (requiredFirst_perm declared).map _
  refine ⟨⟨declared, harguments, hidents ▸ givenOut_freshAll _⟩, ?_, ?_⟩
  · rw [hperm.nodup_iff, hidents]
    exact (nodup_freshAll [] _).1
  · rw [apart_congr hperm, numbersCollide_congr hperm, hidents]
    exact apart_freshAll_iff fun name hname => escaped_of_mem_wantedIdents hname

end Client

namespace Document

open Client Emit Name

theorem namesGiven_plannedClient (d : Document) (segment : String) :
    NamesGiven (d.plannedClient segment).methods :=
  NamesGiven.foldl (w := {}) rfl (d.endpointsUnder segment)

theorem argumentsNamed_of_mem (d : Document) (segment : String) {m : Method}
    (hm : m ∈ (d.plannedClient segment).methods) : ArgumentsNamed m := by
  obtain ⟨e, planned, found, name, hplan, rfl⟩ :=
    (Workshop.exists_planned_of_mem d.info (d.endpointsUnder segment) hm).resolve_left
      List.not_mem_nil
  obtain ⟨hgiven, hnodup, hiff⟩ := argumentsNamed_of_planMethod hplan
  exact ⟨hgiven, hnodup, hiff⟩

/-- What the names in a scope are, and whether they are different identifiers: for the variants of
any enumeration, for the methods of any client of a document, and for the arguments of each. -/
theorem scopes_apart_iff (e : EnumType) (notes : Option String) (d : Document) (segment : String) :
    (∃ variants, declaredVariants? (enumerationUnit e notes) = some variants ∧
      variants.map (·.wire) = e.values ∧
      GivenOut (e.values.map variantIdent) (variants.map (·.ident)) ∧
      Apart (variants.map (·.ident))) ∧
    (GivenOut ((d.plannedClient segment).methods.map (·.endpoint.wantedName))
        ((d.plannedClient segment).methods.map (·.name)) ∧
      Apart ((d.plannedClient segment).methods.map (·.name)) ∧
      "new" ∉ (d.plannedClient segment).methods.map (·.name)) ∧
    ∀ m ∈ (d.plannedClient segment).methods, ArgumentsNamed m := by
  have hmethods := namesGiven_plannedClient d segment
  refine ⟨⟨variantsOf e.values, declaredVariants?_enumerationUnit e notes,
    map_wire_variantsOf e.values, ?_⟩,
    ⟨hmethods.givenOut, hmethods.apart, hmethods.new_notMem⟩,
    fun m hm => argumentsNamed_of_mem d segment hm⟩
  rw [map_ident_variantsOf]
  exact ⟨givenOut_freshAll _, apart_enumIdents e.values⟩

/-- Tags that can be asked for in several ways, each of them with the same parameters. -/
def tagsByName : Document where
  openapi := "3.0.0"
  info := { title := "Test", version := "1.0" }
  paths := ["/tags/list", "/tags/List", "/tags/list2"].map fun path =>
    (path, { declared := [(.get, {
      parameters := [("type", "query"), ("url", "query"), ("Type2", "header"), ("name", "query"),
        ("Name", "header"), ("name2", "query")].map fun (name, location) => { name, location }
      responses := [("200", {})] })] })

theorem tagsByName_apart :
    (∃ variants, declaredVariants? (enumerationUnit ⟨"Tag", "Demo", ["a-b", "a_b", "AB2"], none⟩
        none) = some variants ∧
      variants.map (·.ident) = ["AB", "AB2", "AB22"] ∧ Apart (variants.map (·.ident))) ∧
    ((tagsByName.plannedClient "tags").methods.map (·.name) =
        ["get_list", "get_list2", "get_list22"] ∧
      "new" ∉ (tagsByName.plannedClient "tags").methods.map (·.name)) ∧
    ∃ m ∈ (tagsByName.plannedClient "tags").methods,
      m.arguments.map (·.ident) = ["r#type", "url_param", "type2", "name", "name2", "name22"] ∧
      Apart (m.arguments.map (·.ident)) := by
  obtain ⟨⟨variants, hvariants, -, -, hapart⟩, ⟨-, -, hnew⟩, hall⟩ :=
    scopes_apart_iff ⟨"Tag", "Demo", ["a-b", "a_b", "AB2"], none⟩ none tagsByName "tags"
  have hidents : variants.map (·.ident) = ["AB", "AB2", "AB22"] := by
    rw [declaredVariants?_enumerationUnit] at hvariants
    obtain rfl := Option.some.inj hvariants
    decide
  have hmethods : (tagsByName.plannedClient "tags").methods.map
      (fun m => (m.name, m.arguments.map (·.ident), m.endpoint.wantedIdents)) =
        ["get_list", "get_list2", "get_list22"].map fun name =>
          (name, ["r#type", "url_param", "type2", "name", "name2", "name22"],
            ["r#type", "url_param", "type2", "name", "name", "name2"]) := by
    decide +kernel
  refine ⟨⟨variants, hvariants, hidents, hapart⟩, ⟨?_, hnew⟩, ?_⟩
  · simpa [Function.comp_def] using congrArg (List.map Prod.fst) hmethods
  · obtain ⟨m, rest, hm, hfacts, -⟩ := List.map_eq_cons_iff.mp hmethods
    obtain ⟨-, hfacts⟩ := Prod.mk.inj hfacts
    obtain ⟨harguments, hwanted⟩ := Prod.mk.inj hfacts
    have hmem : m ∈ (tagsByName.plannedClient "tags").methods := hm ▸ List.mem_cons_self
    refine ⟨m, hmem, harguments, (hall m hmem).apart_iff.mpr ?_⟩
    apply not_numbersCollide_of_count_le
    rw [hwanted]
    decide

/-- Items by their type in the query and in a header, and by a second type. -/
def itemsByTypes : Document :=
  reading "/items" ([("type", "query"), ("type", "header"), ("type2", "query")].map
    fun (name, location) => { name, location })

theorem itemsByTypes_collide : ∃ c ∈ itemsByTypes.acceptedClients .unchecked, ∃ m ∈ c.methods,
    m.arguments.map (·.ident) = ["r#type", "r#type2", "type2"] ∧
      ¬ Apart (m.arguments.map (·.ident)) := by
  have hmethods : ((itemsByTypes.acceptedClients .unchecked).flatMap (·.methods)).map
      (fun m => m.arguments.map (·.ident)) = [["r#type", "r#type2", "type2"]] := by
    decide
  obtain ⟨m, hm, hidents⟩ := List.map_eq_singleton_iff.mp hmethods
  obtain ⟨c, hc, hmem⟩ := List.mem_flatMap.mp
    (hm ▸ List.mem_singleton_self m : m ∈ (itemsByTypes.acceptedClients .unchecked).flatMap
      (·.methods))
  refine ⟨c, hc, m, hmem, hidents, ?_⟩
  rw [hidents, Apart]
  decide

end Document

end ApiForge
