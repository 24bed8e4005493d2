import ApiForge.Proofs.DecodingRule

/-!
The order of the keys of an object. It settles which variant is tried, so it may decide between a
value and an error, but it never decides between two values: an object that comes out at all comes
out as the first declared variant that all of its keys belong to, whichever of them is read first.
Main statement: two orders of one object that both come out give the same variant, and the same
fields unless two keys stand for one wire name (`decodeValue_perm`).
-/

namespace ApiForge

namespace Json

theorem namesOnce_obj_perm {members others : Entries Json} (h : members.Perm others) :
    (obj members).namesOnce = (obj others).namesOnce := by
  have hkeys : members.keys.Perm others.keys := h.map Prod.fst
  rw [Bool.eq_iff_iff, namesOnce_obj_iff, namesOnce_obj_iff, membersOnce_iff, membersOnce_iff,
    hkeys.nodup_iff]
  simp only [h.mem_iff]

end Json

namespace Plan

variable {p : Plan} {v : VariantTable} {members others : Entries Json} {d e : Decoded}

/-- The first declared variant that some keys belong to, all of them. No order of the keys enters
it. -/
def shared (p : Plan) (keys : List String) : Option VariantTable :=
  p.variants.find? fun v => keys.all v.holds

/-- A variant that is chosen by one key and holds all the others is the first that holds all: one
before it would hold the key that chose. -/
theorem Chooses.shared {keys : List String} (h : p.Chooses keys v)
    (hheld : ∀ key ∈ keys, v.holds key = true) : p.shared keys = some v := by
  obtain ⟨key, hkey, hv⟩ := h
  have hmem : key ∈ keys := List.mem_of_find?_eq_some hkey
  obtain ⟨-, before, after, hvariants, hbefore⟩ := List.find?_eq_some_iff_append.mp hv
  rw [Plan.shared, List.find?_eq_some_iff_append]
  refine ⟨List.all_eq_true.mpr hheld, before, after, hvariants, fun w hw => ?_⟩
  have hlacks : w.holds key = false := by simpa using hbefore w hw
  rw [Bool.not_eq_true', List.all_eq_false]
  exact ⟨key, hmem, by simp [hlacks]⟩

theorem holds_of_shared {keys : List String} (h : p.shared keys = some v) :
    ∀ key ∈ keys, v.holds key = true := by
  rw [shared, List.find?_eq_some_iff_append] at h
  exact List.all_eq_true.mp h.1

theorem shared_perm {keys others : List String} (h : keys.Perm others) :
    p.shared keys = p.shared others := by
  have hall : ∀ v : VariantTable, keys.all v.holds = others.all v.holds := fun v => h.all_eq
  rw [shared, shared, funext hall]

/-- What an object that comes out comes out as. -/
theorem shared_of_decodeValue (honce : (Json.obj members).namesOnce = true)
    (h : p.decodeValue (.obj members) = .ok d) :
    ∃ v, p.shared members.keys = some v ∧ d.variant = v.typeName ∧
      d.fields = Entries.putAll [] (members.map v.rekey) := by
  obtain ⟨v, hselected, hheld, rfl⟩ := (decodeValue_eq_ok_iff honce).mp h
  have hkeys : ∀ key ∈ members.keys, v.holds key = true := List.forall_mem_map.mpr hheld
  exact ⟨v, (findSome?_select_eq_some_iff.mp hselected).shared hkeys, rfl, rfl⟩

theorem putAll_rekey_perm (h : members.Perm others)
    (hnodup : (Entries.keys (members.map v.rekey)).Nodup) :
    (Entries.putAll [] (members.map v.rekey)).Perm
      (Entries.putAll [] (others.map v.rekey)) := by
  have hmap : (members.map v.rekey).Perm (others.map v.rekey) := h.map _
  have hothers : (Entries.keys (others.map v.rekey)).Nodup :=
    (hmap.map Prod.fst).nodup_iff.mp hnodup
  rw [Entries.putAll_of_nodup (t := []) hnodup, Entries.putAll_of_nodup (t := []) hothers]
  exact hmap

theorem decodeValue_perm (honce : (Json.obj members).namesOnce = true)
    (hperm : members.Perm others) (hd : p.decodeValue (.obj members) = .ok d)
    (he : p.decodeValue (.obj others) = .ok e) :
    ∃ v, p.shared members.keys = some v ∧ d.variant = v.typeName ∧ e.variant = v.typeName ∧
      ((members.keys.filterMap v.wireFor).Nodup →
        d.fields.Perm e.fields ∧ ∀ wire, d.fields.get? wire = e.fields.get? wire) := by
  have hothers : (Json.obj others).namesOnce = true := Json.namesOnce_obj_perm hperm ▸ honce
  obtain ⟨v, hv, hvariant, hfields⟩ := shared_of_decodeValue honce hd
  obtain ⟨w, hw, hvariant', hfields'⟩ := shared_of_decodeValue hothers he
  have hkeys : members.keys.Perm others.keys := hperm.map Prod.fst
  have hsame : w = v := by
    rw [← shared_perm hkeys, hv] at hw
    exact (Option.some.inj hw).symm
  subst hsame
  refine ⟨w, hv, hvariant, hvariant', fun hwires => ?_⟩
  have hfields_perm : d.fields.Perm e.fields := by
    rw [← keys_map_rekey (holds_of_shared hv)] at hwires
    rw [hfields, hfields']
    exact putAll_rekey_perm hperm hwires
  have hnodup : d.fields.keys.Nodup :=
    hfields ▸ Entries.nodup_keys_putAll (t := []) List.nodup_nil _
  exact ⟨hfields_perm, Entries.get?_perm hfields_perm hnodup⟩

/-- An object in both orders. -/
theorem petPlan_perm :
    ∃ v, petPlan.shared ["displayName", "meow"] = some v ∧ v.typeName = "petCat" ∧
      ∀ wire, Entries.get? [("displayName", Json.str "Tom"), ("meow", .bool true)] wire =
        Entries.get? [("meow", .bool true), ("displayName", .str "Tom")] wire := by
  have hd : petPlan.decodeValue (.obj [("displayName", .str "Tom"), ("meow", .bool true)]) =
      .ok ⟨"petCat", [("displayName", .str "Tom"), ("meow", .bool true)]⟩ := rfl
  have he : petPlan.decodeValue (.obj [("meow", .bool true), ("displayName", .str "Tom")]) =
      .ok ⟨"petCat", [("meow", .bool true), ("displayName", .str "Tom")]⟩ := rfl
  obtain ⟨v, hv, hname, -, hfields⟩ := decodeValue_perm (by decide) (.swap ..) hd he
  obtain rfl : ⟨"petCat", [⟨"meow", "meow"⟩, ⟨"display_name", "displayName"⟩]⟩ = v :=
    Option.some.inj hv
  exact ⟨_, hv, rfl, (hfields (by decide)).2⟩

end Plan

end ApiForge
