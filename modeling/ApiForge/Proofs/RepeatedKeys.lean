import ApiForge.Proofs.DecodingRule
import ApiForge.Proofs.Occurrences
import ApiForge.Proofs.ParsedValue
import Mathlib

/-!
Objects that are decoded as they come and objects that are read as values first. The first hold
every entry of the text, the second only what a value keeps: a repeated key at its first place with
its last value. Main statement: both choose the same variant, fail alike and put the same wire names
in the same order; under a wire name the first have the value of the last entry that stands for it
and the second the last value of the newest key that does, and these are the same unless a key that
comes again shares its wire name with another key of the text (`decode_decodeParsed`).
-/

namespace ApiForge

namespace Plan

variable {p : Plan} {v : VariantTable} {l : List (String × Json)} {text : String}

/-- Reads a text as a value and decodes that. -/
def decodeParsed (p : Plan) (text : String) : Except Problem Decoded := do
  let v ← (Json.parse text).mapError .json
  p.decodeValue v

/-- What the pairs of an object come to when all of them are held, and when a value keeps some of
them. Both fail alike or have the same wire names. Under each of these the first has the value of
the last pair that stands for it, and the second the last value of the newest key that does. -/
inductive Alike (p : Plan) (l : List (String × Json)) :
    Except Problem Decoded → Except Problem Decoded → Prop
  | failed (e : Problem) : Alike p l (.error e) (.error e)
  | decoded {v : VariantTable} {fields merged : Entries Json}
      (hchosen : p.Chooses (Entries.keys l) v)
      (hkeys : fields.keys = ((Entries.keys l).filterMap v.wireFor).eraseDups)
      (hmerged : merged.keys = fields.keys)
      (hlast : ∀ wire ∈ fields.keys,
        fields.get? wire = (l.findRev? fun m => v.wireFor m.1 == some wire).map (·.2))
      (hnewest : ∀ wire ∈ fields.keys,
        merged.get? wire = ((Entries.keys l).eraseDups.findRev? (v.wireFor · == some wire)).bind
          fun key => (l.findRev? (·.1 == key)).map (·.2)) :
      Alike p l (.ok ⟨v.typeName, fields⟩) (.ok ⟨v.typeName, merged⟩)

theorem holdEntries_eq (held : Held) (entries : List (Draft × Draft)) :
    p.holdEntries held entries = (Draft.pairsOf entries).map fun l =>
      { selected := held.selected.or (l.findSome? fun m => p.select m.1)
        entries := held.entries ++ l } := by
  induction entries generalizing held with
  | nil =>
    rw [holdEntries, Draft.pairsOf]
    simp [Except.map]
  | cons e rest ih =>
    obtain ⟨k, d⟩ := e
    rw [holdEntries, Draft.pairsOf]
    cases k.text with
    | error f => rfl
    | ok key =>
      cases d.value with
      | error f => rfl
      | ok w =>
        refine (ih (p.hold held key w)).trans ?_
        cases Draft.pairsOf rest with
        | error f => rfl
        | ok more =>
          -- What was chosen before stays; else this key is asked, and then those after it.
          refine congrArg Except.ok ?_
          dsimp only
          rw [hold, List.findSome?_cons, Option.or_assoc, List.append_assoc]
          cases p.select key <;> rfl

/-- Holding all pairs of an object: the first key of a variant settles which one. -/
def heldPairs (p : Plan) (l : List (String × Json)) : Held :=
  { selected := l.findSome? fun m => p.select m.1, entries := l }

theorem readHeld_dict (entries : List (Draft × Draft)) :
    p.readHeld (.dict entries) = (Draft.pairs (.dict entries)).map p.heldPairs := by
  refine (holdEntries_eq {} entries).trans ?_
  change _ = (Draft.pairsOf entries).map p.heldPairs
  cases Draft.pairsOf entries <;> rfl

theorem findSome?_select_ofPairs :
    (Entries.ofPairs l).findSome? (fun m => p.select m.1) = l.findSome? fun m => p.select m.1 := by
  have hkeys : ∀ t : Entries Json,
      t.keys.findSome? p.select = t.findSome? fun m => p.select m.1 := fun _ =>
    List.findSome?_map
  rw [← hkeys, ← hkeys, Entries.ofPairs_eq, Entries.keys_putAll, findSome?_eraseDups]

theorem alike_finish (p : Plan) (l : List (String × Json)) :
    p.Alike l (p.finish (p.heldPairs l)) (p.finish (p.heldPairs (Entries.ofPairs l))) := by
  have hmerged : Entries.keys (Entries.ofPairs l) = (Entries.keys l).eraseDups :=
    Entries.keys_putAll l
  rw [heldPairs, heldPairs, finish_eq, finish_eq, findSome?_select_ofPairs]
  cases hselected : l.findSome? fun m => p.select m.1 with
  | none => exact .failed _
  | some v =>
    dsimp only
    rw [hmerged, find?_eraseDups]
    cases houtside : (Entries.keys l).find? fun k => !v.holds k with
    | some key => exact .failed _
    | none =>
      have hheld := find?_outside_eq_none_iff.mp houtside
      have hheld' : ∀ key ∈ Entries.keys (Entries.ofPairs l), v.holds key = true := by
        intro key hkey
        rw [hmerged, List.mem_eraseDups] at hkey
        exact hheld key hkey
      refine .decoded (findSome?_select_eq_some_iff.mp hselected) ?_ ?_ (fun wire _ => ?_)
        fun wire _ => ?_
      · rw [Entries.keys_putAll, keys_map_rekey hheld]
      · rw [Entries.keys_putAll, Entries.keys_putAll, keys_map_rekey hheld, keys_map_rekey hheld',
          hmerged, eraseDups_filterMap_eraseDups]
      · rw [Entries.get?_putAll, findRev?_map_rekey hheld]
      · rw [Entries.get?_putAll, findRev?_map_rekey hheld']
        exact Entries.findRev?_putAll l (v.wireFor · == some wire)

/-- The two are the same when no key that comes again shares its wire name with another. -/
theorem Alike.eq {a b : Except Problem Decoded} (h : p.Alike l a b)
    (hshared : ∀ v, p.Chooses (Entries.keys l) v → ∀ key ∈ Entries.keys l,
      ∀ other ∈ Entries.keys l, v.wireFor other = v.wireFor key → other ≠ key →
        (Entries.keys l).count key = 1) : a = b := by
  cases h with
  | failed e => rfl
  | @decoded v fields merged hchosen hkeys hmerged hlast hnewest =>
    have hnodup : fields.keys.Nodup := hkeys ▸ nodup_eraseDups _
    have hfields : fields = merged := by
      refine Entries.eq_of_keys_of_get? hnodup hmerged.symm fun wire hwire => ?_
      have hnew : (Entries.keys l).eraseDups.findRev? (v.wireFor · == some wire) =
          (Entries.keys l).findRev? (v.wireFor · == some wire) := by
        refine findRev?_eraseDups fun key hkey other hother hq hq' hne => ?_
        rw [beq_iff_eq] at hq hq'
        exact hshared v hchosen key hkey other hother (hq'.trans hq.symm) hne
      rw [hlast wire hwire, hnewest wire hwire, hnew,
        Entries.findRev?_of_keys l (v.wireFor · == some wire), Option.map_bind]
      rfl
    rw [hfields]

/-! Texts that open a table. -/

theorem exists_dict_read (hopens : (Json.skipSpace text.toList).head? = some '\x7b') :
    ∃ entries, (Json.read text).root = .dict entries := by
  obtain ⟨rest, hrest⟩ := List.head?_eq_some_iff.mp hopens
  rw [Json.root_read, Draft.readValue, hrest]
  exact ⟨_, rfl⟩

theorem parse_eq (hopens : (Json.skipSpace text.toList).head? = some '\x7b') :
    Json.parse text =
      ((Json.read text).get Draft.pairs).map fun l => .obj (Entries.ofPairs l) := by
  obtain ⟨entries, hroot⟩ := exists_dict_read hopens
  refine Reading.get_map ?_
  rw [hroot]
  exact Draft.value_dict entries

theorem get_readHeld (hopens : (Json.skipSpace text.toList).head? = some '\x7b') :
    (Json.read text).get p.readHeld = ((Json.read text).get Draft.pairs).map p.heldPairs := by
  obtain ⟨entries, hroot⟩ := exists_dict_read hopens
  refine Reading.get_map ?_
  rw [hroot]
  exact readHeld_dict entries

theorem decode_eq (hopens : (Json.skipSpace text.toList).head? = some '\x7b') :
    p.decode text = ((Json.read text).get Draft.pairs).mapError .json >>= fun l =>
      p.finish (p.heldPairs l) := by
  rw [decode, get_readHeld hopens]
  cases (Json.read text).get Draft.pairs <;> rfl

/-- An object comes to the same whether it is decoded as it comes or as a value, but for values
under wire names that several of its keys stand for. -/
theorem decode_decodeParsed (hopens : (Json.skipSpace text.toList).head? = some '\x7b') :
    (∀ f, (Json.read text).get Draft.pairs = .error f →
        p.decode text = .error (.json f) ∧ p.decodeParsed text = .error (.json f)) ∧
      ∀ l, (Json.read text).get Draft.pairs = .ok l →
        Json.parse text = .ok (.obj (Entries.ofPairs l)) ∧
          p.Alike l (p.decode text) (p.decodeParsed text) ∧
          ((∀ v, p.Chooses (Entries.keys l) v → ∀ key ∈ Entries.keys l,
              ∀ other ∈ Entries.keys l, v.wireFor other = v.wireFor key → other ≠ key →
                (Entries.keys l).count key = 1) →
            p.decode text = p.decodeParsed text) := by
  have hparse := parse_eq hopens
  have hdecode := decode_eq (p := p) hopens
  constructor
  · intro f hf
    rw [hf] at hparse hdecode
    refine ⟨hdecode, ?_⟩
    rw [decodeParsed, hparse]
    rfl
  · intro l hl
    rw [hl] at hparse hdecode
    have honce : (Json.obj (Entries.ofPairs l)).namesOnce = true :=
      (Json.proper_parse hparse).namesOnce
    have hparsed : p.decodeParsed text = p.finish (p.heldPairs (Entries.ofPairs l)) := by
      rw [decodeParsed, hparse]
      exact decodeValue_obj honce
    have halike : p.Alike l (p.decode text) (p.decodeParsed text) := by
      rw [hparsed, hdecode]
      exact alike_finish p l
    exact ⟨hparse, halike, halike.eq⟩

/-- An object in which a key comes again that no other shares its wire name with. -/
def repeatedMeow : String :=
  "\x7b\"meow\":\x7b\"a\":1,\"a\":2\x7d,\"displayName\":\"Tom\",\"meow\":true\x7d"

/-- The one is decoded alike on both ways, and a number beyond the doubles is a fault on both. -/
theorem petPlan_alike :
    ((Json.skipSpace repeatedMeow.toList).head? = some '\x7b' ∧
        petPlan.decode repeatedMeow = petPlan.decodeParsed repeatedMeow) ∧
      (Json.skipSpace " \x7b\"meow\":1e999\x7d".toList).head? = some '\x7b' ∧
        petPlan.decode " \x7b\"meow\":1e999\x7d" = .error (.json .malformed) ∧
          petPlan.decodeParsed " \x7b\"meow\":1e999\x7d" = .error (.json .malformed) := by
  have hopens : (Json.skipSpace repeatedMeow.toList).head? = some '\x7b' := by decide
  have hbeyond : (Json.skipSpace " \x7b\"meow\":1e999\x7d".toList).head? = some '\x7b' := by
    decide
  refine ⟨⟨hopens, ?_⟩, hbeyond, (decode_decodeParsed hbeyond).1 _ (by cbv)⟩
  have hpairs : (Json.read repeatedMeow).get Draft.pairs =
      .ok [("meow", .obj [("a", .int 2)]), ("displayName", .str "Tom"), ("meow", .bool true)] := by
    cbv
  refine ((decode_decodeParsed hopens).2 _ hpairs).2.2 fun v hchosen => ?_
  obtain ⟨key, hkey, hv⟩ := hchosen
  have hfirst : key = "meow" := by
    cases hkey
    rfl
  cases hfirst
  cases hv
  decide

/-- An object in which a key comes again after another of its wire name. -/
def repeatedAlias : String := "\x7b\"display_name\":1,\"displayName\":2,\"display_name\":3\x7d"

/-- Its last entry counts where it is decoded as it comes, but not where it is a value first. -/
theorem petPlan_repeatedAlias :
    ¬ ∀ (p : Plan) (text : String), (Json.skipSpace text.toList).head? = some '\x7b' →
      p.decode text = p.decodeParsed text := by
  intro h
  have hsame := h petPlan repeatedAlias (by decide)
  have hcomes : petPlan.decode repeatedAlias = .ok ⟨"petCat", [("displayName", .int 3)]⟩ := by cbv
  have hparsed : petPlan.decodeParsed repeatedAlias =
      .ok ⟨"petCat", [("displayName", .int 2)]⟩ := by cbv
  rw [hcomes, hparsed] at hsame
  simp at hsame

end Plan

end ApiForge
