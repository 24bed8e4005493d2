import ApiForge.Proofs.Decoding
import Mathlib.Data.List.Find

/-!
What an object of a union comes to, said of its keys as they stand in it. The first key that
belongs to any variant chooses the first variant that it belongs to. A key outside that variant is
then an error wherever it stands. Else each entry goes under the wire name that its key stands for,
where the first such entry settles the place and the last one the value. Main statement: an object
comes to what this says and to nothing else, and what its values are changes neither the variant
nor the error (`decodeValue_settles`).
-/

namespace ApiForge

namespace Plan

variable {p : Plan} {v : VariantTable} {members : Entries Json}

/-- Some keys choose a variant when the first of them that belongs to any variant belongs to it and
to none that is declared before it. -/
def Chooses (p : Plan) (keys : List String) (v : VariantTable) : Prop :=
  ∃ key, keys.find? (fun k => p.variants.any (·.holds k)) = some key ∧
    p.variants.find? (·.holds key) = some v

/-- What an object of a union comes to. -/
inductive Settles (p : Plan) (members : Entries Json) : Except Problem Decoded → Prop
  /-- No key is the name of a field. -/
  | ambiguous (hnone : ∀ key ∈ members.keys, ∀ v ∈ p.variants, ∀ f ∈ v.fields,
      f.name ≠ key ∧ f.wire ≠ key) :
      Settles p members (.error (.ambiguousUnion p.union))
  /-- The first key that is outside the variant is an error. -/
  | unknown {v : VariantTable} {key : String} (hchosen : p.Chooses members.keys v)
      (hkey : members.keys.find? (fun k => !v.holds k) = some key) :
      Settles p members (.error (.unknownUnionField p.union v.typeName key))
  /-- Every key belongs to the variant. -/
  | decoded {v : VariantTable} {fields : Entries Json} (hchosen : p.Chooses members.keys v)
      (hheld : ∀ key ∈ members.keys, v.holds key = true)
      (hkeys : fields.keys = (members.keys.filterMap v.wireFor).eraseDups)
      (hvalues : ∀ wire ∈ fields.keys,
        fields.get? wire = (members.findRev? fun m => v.wireFor m.1 == some wire).map (·.2)) :
      Settles p members (.ok ⟨v.typeName, fields⟩)

theorem select_isSome_iff {key : String} :
    (p.select key).isSome = p.variants.any (·.holds key) := by
  rw [Bool.eq_iff_iff, select, List.find?_isSome, List.any_eq_true]

theorem findSome?_select_eq_some_iff :
    members.findSome? (fun m => p.select m.1) = some v ↔ p.Chooses members.keys v := by
  induction members with
  | nil => simp [Chooses]
  | cons m rest ih =>
    rw [List.findSome?_cons, Chooses, Entries.keys_cons, List.find?_cons, ← select_isSome_iff]
    cases hm : p.select m.1 with
    | none => exact ih
    | some w =>
      rw [select] at hm
      simp [hm]

theorem findSome?_select_eq_none_iff :
    members.findSome? (fun m => p.select m.1) = none ↔
      ∀ key ∈ members.keys, ∀ v ∈ p.variants, ∀ f ∈ v.fields, f.name ≠ key ∧ f.wire ≠ key := by
  rw [List.findSome?_eq_none_iff, Entries.keys, List.forall_mem_map]
  refine forall₂_congr fun m _ => ?_
  rw [select, List.find?_eq_none]
  refine forall₂_congr fun w _ => ?_
  rw [VariantTable.holds_iff]
  simp

/-- The entries are put under wire names until one of them has none. -/
theorem assign_eq (fields : Entries Json) (entries : List (String × Json)) :
    p.assign v fields entries =
      match (Entries.keys entries).find? (fun k => !v.holds k) with
      | some key => .error (.unknownUnionField p.union v.typeName key)
      | none => .ok (fields.putAll (entries.map v.rekey)) := by
  induction entries generalizing fields with
  | nil => rfl
  | cons m rest ih =>
    obtain ⟨key, value⟩ := m
    rw [assign, Entries.keys_cons, List.find?_cons, ← VariantTable.isSome_wireFor, List.map_cons,
      VariantTable.rekey]
    cases v.wireFor key with
    | none => rfl
    | some wire => exact ih _

theorem keys_map_rekey (hheld : ∀ key ∈ members.keys, v.holds key = true) :
    Entries.keys (members.map v.rekey) = members.keys.filterMap v.wireFor := by
  induction members with
  | nil => rfl
  | cons m rest ih =>
    rw [Entries.keys_cons, List.forall_mem_cons] at hheld
    obtain ⟨wire, hwire⟩ :=
      Option.isSome_iff_exists.mp (VariantTable.isSome_wireFor.trans hheld.1)
    rw [List.map_cons, Entries.keys_cons, Entries.keys_cons, List.filterMap_cons_some hwire,
      ih hheld.2, VariantTable.rekey, hwire]
    rfl

/-- The last entry that stands for a wire name is the last one that is put under it. -/
theorem findRev?_map_rekey (hheld : ∀ key ∈ members.keys, v.holds key = true) (wire : String) :
    ((members.map v.rekey).findRev? (·.1 == wire)).map (·.2) =
      (members.findRev? fun m => v.wireFor m.1 == some wire).map (·.2) := by
  have hlast : members.reverse.find? ((·.1 == wire) ∘ v.rekey) =
      members.reverse.find? fun m => v.wireFor m.1 == some wire := by
    refine List.find?_congr fun m hm => ?_
    have hkey : m.1 ∈ members.keys := Entries.mem_keys_of_mem (List.mem_reverse.mp hm)
    obtain ⟨w, hw⟩ := Option.isSome_iff_exists.mp
      (VariantTable.isSome_wireFor.trans (hheld m.1 hkey))
    rw [Function.comp_apply, VariantTable.rekey, hw]
    rfl
  rw [List.findRev?_eq_find?_reverse, List.findRev?_eq_find?_reverse, ← List.map_reverse,
    List.find?_map, hlast, Option.map_map]
  rfl

theorem finish_eq (l : List (String × Json)) :
    p.finish { selected := l.findSome? fun m => p.select m.1, entries := l } =
      match l.findSome? (fun m => p.select m.1) with
      | none => .error (.ambiguousUnion p.union)
      | some v =>
        match (Entries.keys l).find? (fun k => !v.holds k) with
        | some key => .error (.unknownUnionField p.union v.typeName key)
        | none => .ok ⟨v.typeName, Entries.putAll [] (l.map v.rekey)⟩ := by
  rw [finish]
  cases l.findSome? fun m => p.select m.1 with
  | none => rfl
  | some v =>
    dsimp only
    rw [assign_eq]
    cases (Entries.keys l).find? fun k => !v.holds k <;> rfl

theorem decodeValue_eq (honce : (Json.obj members).namesOnce = true) :
    p.decodeValue (.obj members) =
      match members.findSome? (fun m => p.select m.1) with
      | none => .error (.ambiguousUnion p.union)
      | some v =>
        match members.keys.find? (fun k => !v.holds k) with
        | some key => .error (.unknownUnionField p.union v.typeName key)
        | none => .ok ⟨v.typeName, Entries.putAll [] (members.map v.rekey)⟩ :=
  (decodeValue_obj honce).trans (finish_eq members)

/-- The fields of a decoded object, by their places and by what they hold. -/
theorem eq_putAll_rekey_iff {fields : Entries Json}
    (hheld : ∀ key ∈ members.keys, v.holds key = true) :
    fields = Entries.putAll [] (members.map v.rekey) ↔
      fields.keys = (members.keys.filterMap v.wireFor).eraseDups ∧
        ∀ wire ∈ fields.keys, fields.get? wire =
          (members.findRev? fun m => v.wireFor m.1 == some wire).map (·.2) := by
  have hkeys : (Entries.putAll [] (members.map v.rekey)).keys =
      (members.keys.filterMap v.wireFor).eraseDups := by
    rw [Entries.keys_putAll, keys_map_rekey hheld]
  have hget : ∀ wire, (Entries.putAll [] (members.map v.rekey)).get? wire =
      (members.findRev? fun m => v.wireFor m.1 == some wire).map (·.2) := by
    intro wire
    rw [Entries.get?_putAll, findRev?_map_rekey hheld]
  constructor
  · rintro rfl
    exact ⟨hkeys, fun wire _ => hget wire⟩
  · rintro ⟨hfields, hvalues⟩
    have heq : fields.keys = (Entries.putAll [] (members.map v.rekey)).keys :=
      hfields.trans hkeys.symm
    refine Entries.eq_of_keys_of_get? ?_ heq fun wire hwire => ?_
    · rw [heq]
      exact Entries.nodup_keys_putAll (t := []) List.nodup_nil _
    · rw [hvalues wire hwire, hget]

/-- No key is outside a variant exactly when each belongs to it. -/
theorem find?_outside_eq_none_iff {keys : List String} :
    keys.find? (fun k => !v.holds k) = none ↔ ∀ key ∈ keys, v.holds key = true := by
  simp

theorem settles_decodeValue (honce : (Json.obj members).namesOnce = true) :
    p.Settles members (p.decodeValue (.obj members)) := by
  rw [decodeValue_eq honce]
  cases hselected : members.findSome? fun m => p.select m.1 with
  | none => exact .ambiguous (findSome?_select_eq_none_iff.mp hselected)
  | some v =>
    have hchosen := findSome?_select_eq_some_iff.mp hselected
    dsimp only
    cases houtside : members.keys.find? fun k => !v.holds k with
    | some key => exact .unknown hchosen houtside
    | none =>
      have hheld := find?_outside_eq_none_iff.mp houtside
      obtain ⟨hkeys, hvalues⟩ := (eq_putAll_rekey_iff hheld).mp rfl
      exact .decoded hchosen hheld hkeys hvalues

theorem Settles.eq_decodeValue (honce : (Json.obj members).namesOnce = true)
    {r : Except Problem Decoded} (h : p.Settles members r) : p.decodeValue (.obj members) = r := by
  rw [decodeValue_eq honce]
  cases h with
  | ambiguous hnone => rw [findSome?_select_eq_none_iff.mpr hnone]
  | unknown hchosen hkey =>
    rw [findSome?_select_eq_some_iff.mpr hchosen]
    dsimp only
    rw [hkey]
  | decoded hchosen hheld hkeys hvalues =>
    rw [findSome?_select_eq_some_iff.mpr hchosen]
    dsimp only
    rw [find?_outside_eq_none_iff.mpr hheld, (eq_putAll_rekey_iff hheld).mpr ⟨hkeys, hvalues⟩]

theorem decodeValue_ambiguous_iff (honce : (Json.obj members).namesOnce = true) :
    p.decodeValue (.obj members) = .error (.ambiguousUnion p.union) ↔
      ∀ key ∈ members.keys, ∀ v ∈ p.variants, ∀ f ∈ v.fields, f.name ≠ key ∧ f.wire ≠ key := by
  constructor
  · intro h
    have hsettles := settles_decodeValue (p := p) honce
    rw [h] at hsettles
    cases hsettles with
    | ambiguous hnone => exact hnone
  · exact fun hnone => (Settles.ambiguous hnone).eq_decodeValue honce

/-- Which variant or which error it is depends on the keys alone. -/
theorem map_variant_decodeValue (honce : (Json.obj members).namesOnce = true) :
    (p.decodeValue (.obj members)).map (·.variant) =
      match members.keys.findSome? p.select with
      | none => .error (.ambiguousUnion p.union)
      | some v =>
        match members.keys.find? (fun k => !v.holds k) with
        | some key => .error (.unknownUnionField p.union v.typeName key)
        | none => .ok v.typeName := by
  have hselected : members.keys.findSome? p.select = members.findSome? fun m => p.select m.1 :=
    List.findSome?_map
  rw [decodeValue_eq honce, hselected]
  cases members.findSome? fun m => p.select m.1 with
  | none => rfl
  | some v =>
    dsimp only
    cases members.keys.find? fun k => !v.holds k <;> rfl

theorem decodeValue_settles (honce : (Json.obj members).namesOnce = true) :
    (∀ r, p.decodeValue (.obj members) = r ↔ p.Settles members r) ∧
      (p.decodeValue (.obj members) = .error (.ambiguousUnion p.union) ↔
        ∀ key ∈ members.keys, ∀ v ∈ p.variants, ∀ f ∈ v.fields, f.name ≠ key ∧ f.wire ≠ key) ∧
      ∀ others : Entries Json, (Json.obj others).namesOnce = true → others.keys = members.keys →
        (p.decodeValue (.obj others)).map (·.variant) =
          (p.decodeValue (.obj members)).map (·.variant) := by
  refine ⟨fun r => ⟨?_, Settles.eq_decodeValue honce⟩, decodeValue_ambiguous_iff honce, ?_⟩
  · rintro rfl
    exact settles_decodeValue honce
  · intro others hothers hkeys
    rw [map_variant_decodeValue hothers, map_variant_decodeValue honce, hkeys]

/-- Two keys that stand for one wire name, and keys inside a value, which choose nothing. -/
theorem accountPlan_settles :
    accountPlan.decodeValue (.obj [("userName", .int 1), ("user_name", .int 2)]) =
        .ok ⟨"choiceA", [("userName", .int 2)]⟩ ∧
      accountPlan.decodeValue (.obj [("z", .obj [("userName", .int 1)])]) =
        .error (.ambiguousUnion "ChoiceOneOf") ∧
      (accountPlan.decodeValue
        (.obj [("userName", .obj [("z", .null)]), ("user_name", .int 3)])).map (·.variant) =
          .ok "choiceA" := by
  have honce : (Json.obj [("userName", .int 1), ("user_name", .int 2)]).namesOnce = true := by
    decide
  have hchosen : accountPlan.Chooses ["userName", "user_name"]
      ⟨"choiceA", [⟨"user_name", "userName"⟩, ⟨"user_name2", "user_name"⟩]⟩ :=
    ⟨"userName", by decide, rfl⟩
  have hboth : accountPlan.decodeValue (.obj [("userName", .int 1), ("user_name", .int 2)]) =
      .ok ⟨"choiceA", [("userName", .int 2)]⟩ := by
    refine ((decodeValue_settles honce).1 _).mpr (.decoded (v := ⟨"choiceA", _⟩) hchosen ?_ ?_ ?_)
    · decide
    · decide
    · exact List.forall_mem_singleton.mpr rfl
  have hvalues := (decodeValue_settles (p := accountPlan) honce).2.2
    [("userName", .obj [("z", .null)]), ("user_name", .int 3)] (by decide) rfl
  refine ⟨hboth, (decodeValue_settles (by decide)).2.1.mpr (by decide), ?_⟩
  rw [hvalues, hboth]
  rfl

end Plan

end ApiForge
