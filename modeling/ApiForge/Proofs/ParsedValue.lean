import ApiForge.Json.Reader
import ApiForge.Proofs.Decoding
import ApiForge.Proofs.Rounding

/-!
What a JSON text is as a value. The members of an object are its pairs put one after the other, so
a repeated key has its first place and its last value. Main statement: a value that was read from a
text has rounded doubles only and each name of an object once (`Json.proper_parse`).
-/

namespace ApiForge

namespace Json

/-- A value as a text can have it: its doubles are rounded, and no object has a name twice. -/
structure Proper (v : Json) : Prop where
  exact : v.Exact
  namesOnce : v.namesOnce = true

theorem proper_null : Json.null.Proper := ⟨trivial, rfl⟩

theorem proper_bool (b : Bool) : (bool b).Proper := ⟨trivial, rfl⟩

theorem proper_int (n : Int) : (int n).Proper := ⟨trivial, rfl⟩

theorem proper_real {d : Double} (h : d.Rounded) : (real d).Proper := ⟨h, rfl⟩

theorem proper_str (s : String) : (str s).Proper := ⟨trivial, rfl⟩

theorem proper_arr {items : List Json} (h : ∀ v ∈ items, v.Proper) : (arr items).Proper where
  exact := itemsExact_iff.mpr fun v hv => (h v hv).exact
  namesOnce := itemsOnce_iff.mpr fun v hv => (h v hv).namesOnce

theorem proper_obj {members : Entries Json} (hnodup : members.keys.Nodup)
    (h : ∀ m ∈ members, m.2.Proper) : (obj members).Proper where
  exact := membersExact_iff.mpr fun m hm => (h m hm).exact
  namesOnce :=
    namesOnce_obj_iff.mpr ⟨hnodup, membersOnce_iff.mpr fun m hm => (h m hm).namesOnce⟩

theorem proper_value {n : Numeral} {v : Json} (h : n.value = some v) : v.Proper := by
  rcases value_cases h with ⟨k, rfl⟩ | ⟨d, rfl, hd⟩
  · exact proper_int k
  · exact proper_real hd

end Json

namespace Draft

/-- The entries of a table, a repeated key as often as it comes. -/
def pairsOf : List (Draft × Draft) → Except Fault (List (String × Json))
  | [] => .ok []
  | (k, v) :: rest => do
    let key ← text k
    let v ← value v
    return (key, v) :: (← pairsOf rest)

/-- The pairs of a table as they stand in it. -/
def pairs (d : Draft) : Except Fault (List (String × Json)) := do
  pairsOf (← d.entries)

/-- The members of a value are those pairs, put one after the other. -/
theorem valueEntries_eq (t : Entries Json) (entries : List (Draft × Draft)) :
    valueEntries t entries = (pairsOf entries).map t.putAll := by
  induction entries generalizing t with
  | nil => rfl
  | cons e rest ih =>
    obtain ⟨k, v⟩ := e
    rw [valueEntries, pairsOf]
    cases k.text with
    | error f => rfl
    | ok key =>
      cases v.value with
      | error f => rfl
      | ok w =>
        refine (ih (t.put key w)).trans ?_
        change _ = Except.map t.putAll (do return (key, w) :: (← pairsOf rest))
        cases pairsOf rest <;> rfl

theorem value_dict (entries : List (Draft × Draft)) :
    (dict entries).value = (pairs (dict entries)).map fun l => .obj (Entries.ofPairs l) := by
  change (do return Json.obj (← valueEntries [] entries)) = _
  rw [valueEntries_eq]
  change _ = (pairsOf entries).map _
  cases pairsOf entries <;> rfl

/-! Values from drafts that were read. -/

mutual

/-- All scalars that can be got at have proper values. -/
def Proper : Draft → Prop
  | scalar s => ∀ v, s.value = .ok v → v.Proper
  | list _ items => ItemsProper items
  | dict entries => EntriesProper entries
  | marked inner => Proper inner
  | sealed _ _ => True
  | broken _ => True

def ItemsProper : List Draft → Prop
  | [] => True
  | d :: rest => Proper d ∧ ItemsProper rest

def EntriesProper : List (Draft × Draft) → Prop
  | [] => True
  | (_, d) :: rest => Proper d ∧ EntriesProper rest

end

theorem itemsProper_iff {items : List Draft} : ItemsProper items ↔ ∀ d ∈ items, d.Proper := by
  induction items with
  | nil => simp [ItemsProper]
  | cons d rest ih => rw [ItemsProper, List.forall_mem_cons, ih]

theorem entriesProper_iff {entries : List (Draft × Draft)} :
    EntriesProper entries ↔ ∀ e ∈ entries, e.2.Proper := by
  induction entries with
  | nil => simp [EntriesProper]
  | cons e rest ih => rw [EntriesProper, List.forall_mem_cons, ih]

mutual

/-- The value of a draft is proper if those of its scalars are. -/
theorem Proper.value : (d : Draft) → d.Proper → ∀ v, d.value = .ok v → v.Proper
  | scalar _, h => h
  | list _ items, h => by
    intro v hv
    obtain ⟨vs, hvs, hv⟩ := bind_eq_ok hv
    cases hv
    exact Json.proper_arr (ItemsProper.value items h vs hvs)
  | dict entries, h => by
    intro v hv
    obtain ⟨members, hmembers, hv⟩ := bind_eq_ok hv
    cases hv
    obtain ⟨hnodup, hproper⟩ :=
      EntriesProper.value entries h [] members List.nodup_nil (List.forall_mem_nil _) hmembers
    exact Json.proper_obj hnodup hproper
  | sealed _ _, _ => fun _ hv => by cases hv
  | marked _, _ => fun _ hv => by cases hv
  | broken _, _ => fun _ hv => by cases hv

theorem ItemsProper.value : (items : List Draft) → ItemsProper items →
    ∀ vs, valueItems items = .ok vs → ∀ v ∈ vs, v.Proper
  | [], _ => by
    intro vs hvs
    cases hvs
    exact List.forall_mem_nil _
  | d :: rest, h => by
    intro vs hvs
    obtain ⟨v, hv, hvs⟩ := bind_eq_ok hvs
    obtain ⟨more, hmore, hvs⟩ := bind_eq_ok hvs
    cases hvs
    exact List.forall_mem_cons.mpr
      ⟨Proper.value d h.1 v hv, ItemsProper.value rest h.2 more hmore⟩

theorem EntriesProper.value : (entries : List (Draft × Draft)) → EntriesProper entries →
    ∀ t u : Entries Json, t.keys.Nodup → (∀ m ∈ t, m.2.Proper) →
      valueEntries t entries = .ok u → u.keys.Nodup ∧ ∀ m ∈ u, m.2.Proper
  | [], _ => by
    intro t u hnodup ht hu
    cases hu
    exact ⟨hnodup, ht⟩
  | (k, d) :: rest, h => by
    intro t u hnodup ht hu
    obtain ⟨key, -, hu⟩ := bind_eq_ok hu
    obtain ⟨v, hv, hu⟩ := bind_eq_ok hu
    exact EntriesProper.value rest h.2 _ _ (Entries.nodup_keys_put hnodup _ _)
      (Entries.forall_mem_put ht (Proper.value d h.1 v hv) key) hu

end

/-! The drafts of JSON texts. -/

theorem proper_ofJsonScalar {v : Json} (h : v.Proper) : (ofJsonScalar v).Proper := by
  intro w hw
  cases hw
  exact h

mutual

/-- The draft of a proper value is proper. -/
theorem proper_ofJson : (v : Json) → v.Exact → (ofJson v).Proper
  | .null, _ => proper_ofJsonScalar Json.proper_null
  | .bool b, _ => proper_ofJsonScalar (Json.proper_bool b)
  | .int n, _ => proper_ofJsonScalar (Json.proper_int n)
  | .real _, h => proper_ofJsonScalar (Json.proper_real h)
  | .str s, _ => proper_ofJsonScalar (Json.proper_str s)
  | .arr items, h => itemsProper_ofItems items h
  | .obj members, h => entriesProper_ofMembers members h

theorem itemsProper_ofItems : (items : List Json) → Json.ItemsExact items →
    ItemsProper (ofJson.ofItems items)
  | [], _ => trivial
  | v :: rest, h => ⟨proper_ofJson v h.1, itemsProper_ofItems rest h.2⟩

theorem entriesProper_ofMembers : (members : List (String × Json)) → Json.MembersExact members →
    EntriesProper (ofJson.ofMembers members)
  | [], _ => trivial
  | (_, v) :: rest, h => ⟨proper_ofJson v h.1, entriesProper_ofMembers rest h.2⟩

end

theorem proper_atDepth {depth : Nat} {d : Draft} (h : d.Proper) : (atDepth depth d).Proper := by
  rw [atDepth]
  split
  · exact h
  · trivial

theorem proper_unreadable (f : Fault) : (unreadable f).Proper := by
  intro v hv
  cases hv

theorem proper_readWord {word : String} {v : Json} (h : v.Proper) (s : List Char) :
    (readWord word v s).1.Proper := by
  rw [readWord]
  split
  · exact proper_ofJsonScalar h
  · trivial

theorem proper_readString (s : List Char) : (readString s).1.Proper := by
  rw [readString]
  split
  · trivial
  · split
    · exact proper_ofJsonScalar (Json.proper_str _)
    · exact proper_unreadable _

theorem proper_readNumber (s : List Char) : (readNumber s).1.Proper := by
  rw [readNumber]
  split
  · trivial
  · split
    · next h => exact proper_ofJsonScalar (Json.proper_value h)
    · exact proper_unreadable _

/-! A text is read with a bound on the recursion: a value reads its items and entries with a bound
that is less by one. -/

theorem proper_readValue_succ {fuel : Nat}
    (hitems : ∀ depth s, ItemsProper (readItems fuel depth s).1)
    (hentries : ∀ depth s, EntriesProper (readEntries fuel depth s).1)
    (depth : Nat) (s : List Char) : (readValue (fuel + 1) depth s).1.Proper := by
  rw [readValue]
  split
  · trivial
  · exact proper_readString _
  · apply proper_atDepth
    rw [Proper]
    split
    · trivial
    · exact hitems _ _
  · apply proper_atDepth
    rw [Proper]
    split
    · trivial
    · exact hentries _ _
  · split_ifs
    · exact proper_readWord Json.proper_null _
    · exact proper_readWord (Json.proper_bool _) _
    · exact proper_readWord (Json.proper_bool _) _
    · exact proper_readNumber _
    · trivial

theorem itemsProper_readItems_succ {fuel : Nat}
    (hvalue : ∀ depth s, (readValue fuel depth s).1.Proper)
    (hitems : ∀ depth s, ItemsProper (readItems fuel depth s).1)
    (depth : Nat) (s : List Char) : ItemsProper (readItems (fuel + 1) depth s).1 := by
  have hitem := hvalue depth s
  rw [readItems]
  dsimp only
  split
  · exact ⟨hitem, trivial⟩
  · split
    · exact ⟨hitem, trivial⟩
    · exact ⟨hitem, hitems _ _⟩
    · exact ⟨hitem, trivial, trivial⟩

theorem entriesProper_readEntries_succ {fuel : Nat}
    (hvalue : ∀ depth s, (readValue fuel depth s).1.Proper)
    (hentries : ∀ depth s, EntriesProper (readEntries fuel depth s).1)
    (depth : Nat) (s : List Char) : EntriesProper (readEntries (fuel + 1) depth s).1 := by
  rw [readEntries]
  split
  · dsimp only
    split
    · split
      · exact ⟨hvalue _ _, trivial⟩
      · exact ⟨hvalue _ _, hentries _ _⟩
      · exact ⟨hvalue _ _, trivial, trivial⟩
      · exact ⟨hvalue _ _, trivial⟩
    · exact ⟨trivial, trivial⟩
  · exact ⟨trivial, trivial⟩

/-- What is read from a text is proper. The induction is on the bound of the recursion, for values,
items and entries at once. -/
theorem proper_read (fuel : Nat) :
    (∀ depth s, (readValue fuel depth s).1.Proper) ∧
      (∀ depth s, ItemsProper (readItems fuel depth s).1) ∧
        ∀ depth s, EntriesProper (readEntries fuel depth s).1 := by
  induction fuel with
  | zero =>
    refine ⟨fun depth s => ?_, fun depth s => ?_, fun depth s => ?_⟩
    · rw [readValue]
      trivial
    · rw [readItems]
      exact ⟨trivial, trivial⟩
    · rw [readEntries]
      exact ⟨trivial, trivial⟩
  | succ fuel ih =>
    obtain ⟨hvalue, hitems, hentries⟩ := ih
    exact ⟨proper_readValue_succ hitems hentries, itemsProper_readItems_succ hvalue hitems,
      entriesProper_readEntries_succ hvalue hentries⟩

end Draft

theorem Reading.get_map {α β : Type} {r : Reading} {a : Draft → Except Fault α}
    {b : Draft → Except Fault β} {f : α → β} (h : b r.root = (a r.root).map f) :
    r.get b = (r.get a).map f := by
  rw [Reading.get, Reading.get, h]
  cases a r.root with
  | error _ => rfl
  | ok _ => cases r.rest <;> rfl

theorem Reading.of_get {α : Type} {r : Reading} {read : Draft → Except Fault α} {a : α}
    (h : r.get read = .ok a) : read r.root = .ok a := by
  obtain ⟨b, hb, h⟩ := bind_eq_ok h
  obtain ⟨_, _, h⟩ := bind_eq_ok h
  cases h
  exact hb

theorem Json.root_read (text : String) :
    (Json.read text).root = (Draft.readValue (2 * text.toList.length + 2) 0 text.toList).1 :=
  rfl

theorem Json.proper_root_read (text : String) : (Json.read text).root.Proper := by
  rw [Json.root_read]
  exact (Draft.proper_read _).1 _ _

/-- The value of a text is proper: its doubles are rounded, and no object has a name twice. -/
theorem Json.proper_parse {text : String} {v : Json} (h : Json.parse text = .ok v) : v.Proper :=
  Draft.Proper.value _ (Json.proper_root_read text) v (Reading.of_get h)

end ApiForge
