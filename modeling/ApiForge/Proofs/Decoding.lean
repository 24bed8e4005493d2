import ApiForge.Proofs.Entries
import ApiForge.Proofs.Resolution
import ApiForge.Union.Decoding

/-!
Decoding the objects of a union. A key counts as a name in the code before it counts as one on the
wire, both where the variant is chosen and where the entries are put under wire names, so an object
that is written with wire names need not come out as it went in. Main statement: it does exactly
when no key of it is the name of another field in the code (`decodeValue_wireObject_iff`).
-/

namespace ApiForge

namespace Json

mutual

/-- Whether no object in a value has a name twice. -/
def namesOnce : Json → Bool
  | arr items => itemsOnce items
  | obj members => (Entries.keys members).Nodup && membersOnce members
  | _ => true

def itemsOnce : List Json → Bool
  | [] => true
  | v :: rest => namesOnce v && itemsOnce rest

def membersOnce : List (String × Json) → Bool
  | [] => true
  | (_, v) :: rest => namesOnce v && membersOnce rest

end

theorem itemsOnce_iff {items : List Json} :
    itemsOnce items = true ↔ ∀ v ∈ items, v.namesOnce = true := by
  induction items with
  | nil => simp [itemsOnce]
  | cons v rest ih => rw [itemsOnce, Bool.and_eq_true, List.forall_mem_cons, ih]

theorem membersOnce_iff {members : List (String × Json)} :
    membersOnce members = true ↔ ∀ m ∈ members, m.2.namesOnce = true := by
  induction members with
  | nil => simp [membersOnce]
  | cons m rest ih => rw [membersOnce, Bool.and_eq_true, List.forall_mem_cons, ih]

theorem namesOnce_obj_iff {members : Entries Json} :
    (obj members).namesOnce = true ↔ members.keys.Nodup ∧ membersOnce members = true := by
  rw [namesOnce, Bool.and_eq_true, decide_eq_true_iff]

end Json

namespace Draft

open Json

mutual

/-- The draft of a value is read as that value. -/
theorem value_ofJson : (v : Json) → v.namesOnce = true → (ofJson v).value = .ok v
  | .null, _ => rfl
  | .bool _, _ => rfl
  | .int _, _ => rfl
  | .real _, _ => rfl
  | .str _, _ => rfl
  | .arr items, h => by
    rw [ofJson, value, valueItems_ofItems items h]
    rfl
  | .obj members, h => by
    obtain ⟨hnodup, honce⟩ := namesOnce_obj_iff.mp h
    have hmembers : Entries.putAll [] members = members := Entries.putAll_of_nodup (t := []) hnodup
    rw [ofJson, value, valueEntries_ofMembers members honce [], hmembers]
    rfl

theorem valueItems_ofItems : (items : List Json) → itemsOnce items = true →
    valueItems (ofJson.ofItems items) = .ok items
  | [], _ => rfl
  | v :: rest, h => by
    rw [itemsOnce, Bool.and_eq_true] at h
    rw [ofJson.ofItems, valueItems, value_ofJson v h.1, valueItems_ofItems rest h.2]
    rfl

theorem valueEntries_ofMembers : (members : List (String × Json)) → membersOnce members = true →
    (t : Entries Json) → valueEntries t (ofJson.ofMembers members) = .ok (t.putAll members)
  | [], _, _ => rfl
  | (k, v) :: rest, h, t => by
    rw [membersOnce, Bool.and_eq_true] at h
    rw [ofJson.ofMembers, valueEntries, value_ofJson v h.1]
    exact valueEntries_ofMembers rest h.2 (t.put k v)

end

end Draft

namespace VariantTable

variable {t : VariantTable} {key : String}

theorem holds_iff : t.holds key = true ↔ ∃ f ∈ t.fields, f.name = key ∨ f.wire = key := by
  simp [holds]

theorem isSome_wireFor : (t.wireFor key).isSome = t.holds key := by
  rw [Bool.eq_iff_iff, holds_iff, wireFor, Option.isSome_map, Option.isSome_or, Bool.or_eq_true,
    List.find?_isSome, List.find?_isSome]
  simp only [beq_iff_eq, ← exists_or, ← and_or_left]

theorem mem_of_wireFor {wire : String} (h : t.wireFor key = some wire) :
    ∃ f ∈ t.fields, f.wire = wire := by
  obtain ⟨f, hf, rfl⟩ := Option.map_eq_some_iff.mp h
  rcases Option.or_eq_some_iff.mp hf with hf | ⟨_, hf⟩
  · exact ⟨f, List.mem_of_find?_eq_some hf, rfl⟩
  · exact ⟨f, List.mem_of_find?_eq_some hf, rfl⟩

/-- A wire name stands for itself exactly when the first field that it is the name of in the code,
if there is one, has it on the wire too. -/
theorem wireFor_eq_self_iff (hwire : ∃ f ∈ t.fields, f.wire = key) :
    t.wireFor key = some key ↔
      ∀ f ∈ t.fields.find? (·.name == key), f.wire = key := by
  rw [wireFor]
  cases hname : t.fields.find? (·.name == key) with
  | some f => simp
  | none =>
    have hfound : (t.fields.find? (·.wire == key)).isSome = true := by
      rw [List.find?_isSome]
      obtain ⟨f, hf, heq⟩ := hwire
      exact ⟨f, hf, beq_iff_eq.mpr heq⟩
    obtain ⟨f, hf⟩ := Option.isSome_iff_exists.mp hfound
    have heq : f.wire = key := by simpa using List.find?_some hf
    simp [hf, heq]

/-- An entry under the wire name that its key stands for. -/
def rekey (t : VariantTable) (m : String × Json) : String × Json :=
  ((t.wireFor m.1).getD m.1, m.2)

theorem rekey_eq_self_iff {m : String × Json} (h : t.holds m.1 = true) :
    t.rekey m = m ↔ t.wireFor m.1 = some m.1 := by
  obtain ⟨key, value⟩ := m
  obtain ⟨wire, hwire⟩ := Option.isSome_iff_exists.mp (isSome_wireFor.trans h)
  simp [rekey, hwire]

end VariantTable

namespace Plan

variable {p : Plan} {v : VariantTable}

/-- Holding the members of an object: the first key of a variant settles which one. -/
theorem holdEntries_ofMembers (members : Entries Json) (honce : Json.membersOnce members = true)
    (held : Held) :
    p.holdEntries held (Draft.ofJson.ofMembers members) =
      .ok { selected := held.selected.or (members.findSome? fun m => p.select m.1)
            entries := held.entries ++ members } := by
  induction members generalizing held with
  | nil => simp [Draft.ofJson.ofMembers, holdEntries]
  | cons m rest ih =>
    obtain ⟨k, w⟩ := m
    rw [Json.membersOnce, Bool.and_eq_true] at honce
    rw [Draft.ofJson.ofMembers, holdEntries, Draft.value_ofJson w honce.1]
    refine (ih honce.2 (p.hold held k w)).trans ?_
    -- What was chosen before stays; else this key is asked, and then those after it.
    rw [hold, List.findSome?_cons, List.append_assoc, Option.or_assoc]
    cases p.select k <;> rfl

theorem assign_eq_ok_iff {fields out : Entries Json} {entries : List (String × Json)} :
    p.assign v fields entries = .ok out ↔
      (∀ m ∈ entries, v.holds m.1 = true) ∧ out = fields.putAll (entries.map v.rekey) := by
  induction entries generalizing fields with
  | nil =>
    rw [assign, List.map_nil, Entries.putAll_nil, Except.ok.injEq]
    exact ⟨fun h => ⟨nofun, h.symm⟩, fun h => h.2.symm⟩
  | cons m rest ih =>
    obtain ⟨key, value⟩ := m
    rw [assign, List.forall_mem_cons, ← VariantTable.isSome_wireFor, List.map_cons,
      VariantTable.rekey]
    cases v.wireFor key with
    | none => simp
    | some wire =>
      rw [Entries.putAll_cons]
      simpa using ih

/-- An object is held as it is before it is settled. -/
theorem decodeValue_obj {members : Entries Json} (honce : (Json.obj members).namesOnce = true) :
    p.decodeValue (.obj members) =
      p.finish { selected := members.findSome? fun m => p.select m.1, entries := members } := by
  have hread : p.readHeld (Draft.ofJson (.obj members)) =
      .ok { selected := members.findSome? fun m => p.select m.1, entries := members } :=
    holdEntries_ofMembers members (Json.namesOnce_obj_iff.mp honce).2 {}
  rw [decodeValue, hread]
  rfl

theorem decodeValue_eq_ok_iff {members : Entries Json}
    (honce : (Json.obj members).namesOnce = true) {d : Decoded} :
    p.decodeValue (.obj members) = .ok d ↔
      ∃ v, members.findSome? (fun m => p.select m.1) = some v ∧
        (∀ m ∈ members, v.holds m.1 = true) ∧
        d = ⟨v.typeName, Entries.putAll [] (members.map v.rekey)⟩ := by
  rw [decodeValue_obj honce, finish]
  cases members.findSome? fun m => p.select m.1 with
  | none => simp
  | some v =>
    constructor
    · intro h
      obtain ⟨fields, hfields, h⟩ := bind_eq_ok h
      cases h
      obtain ⟨hall, rfl⟩ := assign_eq_ok_iff.mp hfields
      exact ⟨v, rfl, hall, rfl⟩
    · rintro ⟨_, heq, hall, rfl⟩
      cases heq
      dsimp only
      rw [assign_eq_ok_iff.mpr ⟨hall, rfl⟩]
      rfl

theorem putAll_rekey_eq_iff {members : Entries Json} (hnodup : members.keys.Nodup) :
    Entries.putAll [] (members.map v.rekey) = members ↔ ∀ m ∈ members, v.rekey m = m := by
  constructor
  · intro h
    -- Nothing was lost on the way, so no two entries came to the same key.
    have hkeys : (Entries.keys (members.map v.rekey)).Nodup := by
      rw [← Entries.length_putAll_eq_iff, h, List.length_map]
    have hmap : members.map v.rekey = members.map id := by
      rw [List.map_id]
      exact (Entries.putAll_of_nodup (t := []) hkeys).symm.trans h
    exact List.map_inj_left.mp hmap
  · intro h
    have hmap : members.map v.rekey = members := by
      conv_rhs => rw [← List.map_id members]
      exact List.map_inj_left.mpr h
    rw [hmap]
    exact Entries.putAll_of_nodup (t := []) hnodup

/-- An object comes out with its entries as they are when each of its keys stands for itself. -/
theorem decodeValue_eq_self_iff {members : Entries Json}
    (honce : (Json.obj members).namesOnce = true) {name : String} :
    p.decodeValue (.obj members) = .ok ⟨name, members⟩ ↔
      ∃ v, members.findSome? (fun m => p.select m.1) = some v ∧ v.typeName = name ∧
        ∀ m ∈ members, v.wireFor m.1 = some m.1 := by
  have hnodup := (Json.namesOnce_obj_iff.mp honce).1
  rw [decodeValue_eq_ok_iff honce]
  refine exists_congr fun v => and_congr_right fun _ => ?_
  rw [Decoded.mk.injEq]
  constructor
  · rintro ⟨hholds, hname, hout⟩
    refine ⟨hname.symm, fun m hm => ?_⟩
    exact (VariantTable.rekey_eq_self_iff (hholds m hm)).mp
      ((putAll_rekey_eq_iff hnodup).mp hout.symm m hm)
  · rintro ⟨hname, hstands⟩
    have hholds : ∀ m ∈ members, v.holds m.1 = true := by
      intro m hm
      rw [← VariantTable.isSome_wireFor, hstands m hm]
      rfl
    refine ⟨hholds, hname.symm, ((putAll_rekey_eq_iff hnodup).mpr fun m hm => ?_).symm⟩
    exact (VariantTable.rekey_eq_self_iff (hholds m hm)).mpr (hstands m hm)

/-- A wire name of one variant only chooses that variant unless it is a name in the code of one
before. -/
theorem select_wire_iff {before after : List VariantTable} {key : String}
    (hvariants : p.variants = before ++ v :: after) (hwire : ∃ f ∈ v.fields, f.wire = key)
    (hother : ∀ w ∈ before, ∀ f ∈ w.fields, f.wire ≠ key) :
    p.select key = some v ↔ ∀ w ∈ before, ∀ f ∈ w.fields, f.name ≠ key := by
  have hholds : v.holds key = true := by
    obtain ⟨f, hf, heq⟩ := hwire
    exact VariantTable.holds_iff.mpr ⟨f, hf, .inr heq⟩
  have hhere : (v :: after).find? (·.holds key) = some v := List.find?_cons_of_pos hholds
  rw [select, hvariants, List.find?_append, hhere]
  constructor
  · intro h w hw f hf heq
    have hfound : (before.find? (·.holds key)).isSome = true :=
      List.find?_isSome.mpr ⟨w, hw, VariantTable.holds_iff.mpr ⟨f, hf, .inl heq⟩⟩
    obtain ⟨u, hu⟩ := Option.isSome_iff_exists.mp hfound
    rw [hu, Option.some_or, Option.some.injEq] at h
    -- A variant before with the key on the wire was excluded.
    obtain ⟨g, hg, hkey⟩ := hwire
    exact hother v (h ▸ List.mem_of_find?_eq_some hu) g hg hkey
  · intro hname
    have hnone : before.find? (·.holds key) = none := by
      rw [List.find?_eq_none]
      intro w hw hholds
      obtain ⟨f, hf, heq | heq⟩ := VariantTable.holds_iff.mp hholds
      · exact hname w hw f hf heq
      · exact hother w hw f hf heq
    rw [hnone, Option.none_or]

/-- An object whose names are wire names of a variant, the first of them of no other variant, comes
out as that variant with the entries as they are exactly when no key is the name in the code of a
field of the variant that is called otherwise on the wire, and the first key is no name in the code
of a field of a variant before. -/
theorem decodeValue_wireObject_iff {before after : List VariantTable}
    (hvariants : p.variants = before ++ v :: after) {key : String} {value : Json}
    {rest : Entries Json} (honce : (Json.obj ((key, value) :: rest)).namesOnce = true)
    (hwire : ∀ k ∈ Entries.keys ((key, value) :: rest), ∃ f ∈ v.fields, f.wire = k)
    (hother : ∀ w ∈ before ++ after, ∀ f ∈ w.fields, f.wire ≠ key) :
    p.decodeValue (.obj ((key, value) :: rest)) = .ok ⟨v.typeName, (key, value) :: rest⟩ ↔
      (∀ k ∈ Entries.keys ((key, value) :: rest),
          ∀ f ∈ v.fields.find? (·.name == k), f.wire = k) ∧
        ∀ w ∈ before, ∀ f ∈ w.fields, f.name ≠ key := by
  have hself : (∀ m ∈ (key, value) :: rest, v.wireFor m.1 = some m.1) ↔
      ∀ k ∈ Entries.keys ((key, value) :: rest),
        ∀ f ∈ v.fields.find? (·.name == k), f.wire = k := by
    rw [Entries.keys, List.forall_mem_map]
    refine forall₂_congr fun m hm => VariantTable.wireFor_eq_self_iff (hwire m.1 ?_)
    exact Entries.mem_keys_of_mem hm
  have hselect : p.select key = some v ↔ ∀ w ∈ before, ∀ f ∈ w.fields, f.name ≠ key :=
    select_wire_iff hvariants (hwire key List.mem_cons_self) fun w hw =>
      hother w (List.mem_append_left _ hw)
  have hchosen : ∀ w, p.select key = some w →
      ((key, value) :: rest).findSome? (fun m => p.select m.1) = some w := fun w h => by
    rw [List.findSome?_cons, h]
  rw [decodeValue_eq_self_iff honce, ← hself, ← hselect]
  constructor
  · rintro ⟨w, hw, _, hstands⟩
    have hsome : (p.select key).isSome = true := by
      obtain ⟨f, hf, heq⟩ := hwire key List.mem_cons_self
      refine List.find?_isSome.mpr ⟨v, ?_, VariantTable.holds_iff.mpr ⟨f, hf, .inr heq⟩⟩
      rw [hvariants]
      exact List.mem_append_right _ List.mem_cons_self
    obtain ⟨u, hu⟩ := Option.isSome_iff_exists.mp hsome
    have heq : u = w := Option.some.inj ((hchosen u hu).symm.trans hw)
    subst heq
    -- The first key stands for itself, and only the one variant has it on the wire.
    obtain ⟨f, hf, hkey⟩ := VariantTable.mem_of_wireFor (hstands _ List.mem_cons_self)
    have hmem : u ∈ before ++ v :: after := hvariants ▸ List.mem_of_find?_eq_some hu
    rw [List.mem_append, List.mem_cons, or_left_comm, ← List.mem_append] at hmem
    rcases hmem with rfl | hmem
    · exact ⟨hstands, hu⟩
    · exact absurd hkey (hother u hmem f hf)
  · rintro ⟨hstands, hv⟩
    exact ⟨v, hchosen v hv, rfl, hstands⟩

/-! The plans of two unions. -/

/-- The plan that is derived for a group while no name is taken. -/
def ofGroup? (group : UnionGroup) : Option Plan :=
  match (DerivedUnion.derive {} group "Demo").outcome with
  | .ok (some u, _) => some u.plan
  | _ => none

def alternativeOf (title : String) (names : List String) : Schema :=
  .node { title := some title }
    (.object (names.map fun name => (name, .node {} (.primitive "string" none))) [])

/-- A union whose second variant has a property that is called otherwise in the code. -/
def petPlan : Plan :=
  ⟨"PetOneOf", [⟨"petDog", [⟨"bark", "bark"⟩, ⟨"name", "name"⟩]⟩,
    ⟨"petCat", [⟨"meow", "meow"⟩, ⟨"display_name", "displayName"⟩]⟩]⟩

theorem petPlan_keeps :
    ofGroup? ⟨"pet", [alternativeOf "Dog" ["bark", "name"],
        alternativeOf "Cat" ["meow", "displayName"]]⟩ = some petPlan ∧
      petPlan.decodeValue (.obj [("displayName", .str "Tom"), ("meow", .bool true)]) =
        .ok ⟨"petCat", [("displayName", .str "Tom"), ("meow", .bool true)]⟩ := by
  have hvariants : petPlan.variants = [⟨"petDog", [⟨"bark", "bark"⟩, ⟨"name", "name"⟩]⟩] ++
      ⟨"petCat", [⟨"meow", "meow"⟩, ⟨"display_name", "displayName"⟩]⟩ :: [] := rfl
  refine ⟨by decide, ?_⟩
  refine (decodeValue_wireObject_iff hvariants ?_ ?_ ?_).mpr ⟨?_, ?_⟩
  · decide
  · decide
  · decide
  · decide
  · decide

/-- A union whose properties differ in their spelling only. -/
def accountPlan : Plan :=
  ⟨"ChoiceOneOf", [⟨"choiceA", [⟨"user_name", "userName"⟩, ⟨"user_name2", "user_name"⟩]⟩,
    ⟨"choiceB", [⟨"user_name2", "user_name2"⟩]⟩]⟩

theorem accountPlan_renames :
    ofGroup? ⟨"choice", [alternativeOf "A" ["userName", "user_name"],
        alternativeOf "B" ["user_name2"]]⟩ = some accountPlan ∧
      accountPlan.decodeValue (.obj [("user_name", .int 1)]) =
        .ok ⟨"choiceA", [("userName", .int 1)]⟩ ∧
      accountPlan.decodeValue (.obj [("user_name2", .int 1)]) =
        .ok ⟨"choiceA", [("user_name", .int 1)]⟩ := by
  refine ⟨by decide +kernel, ?_, ?_⟩
  · rfl
  · rfl

end Plan

end ApiForge
