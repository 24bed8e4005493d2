import ApiForge.Proofs.JsonReading
import ApiForge.Proofs.RepeatedKeys

/-!
Lists of objects of a union. All items are read before any is settled, so a text that cannot be
read, wherever it stands, comes before an object that cannot be settled. Main statement: a list is
accepted exactly when each of its items is, with what they come to in order; an item that is no
object makes it fail whatever the others are; and else it fails as the first item that fails
(`decodeList_items`).
-/

namespace ApiForge

section Traversal

variable {α β γ ε ζ : Type}

/-- The first element that does not succeed fails with `e`. -/
def FirstError (f : α → Except ε β) (l : List α) (e : ε) : Prop :=
  ∃ before a after, l = before ++ a :: after ∧ (∀ b ∈ before, ∃ x, f b = .ok x) ∧ f a = .error e

theorem mapM_ok_iff {f : α → Except ε β} {l : List α} {bs : List β} :
    l.mapM f = .ok bs ↔ List.Forall₂ (fun a b => f a = .ok b) l bs := by
  induction l generalizing bs with
  | nil =>
    rw [List.forall₂_nil_left_iff]
    exact ⟨fun h => by cases h; rfl, fun h => by rw [h]; rfl⟩
  | cons a l ih =>
    rw [List.mapM_cons]
    constructor
    · intro h
      obtain ⟨b, hb, h⟩ := bind_eq_ok h
      obtain ⟨more, hmore, h⟩ := bind_eq_ok h
      cases h
      exact .cons hb (ih.mp hmore)
    · intro h
      cases h with
      | cons hb hmore =>
        rw [hb, ih.mpr hmore]
        rfl

theorem firstError_cons_iff {f : α → Except ε β} {a : α} {l : List α} {e : ε} :
    FirstError f (a :: l) e ↔ f a = .error e ∨ (∃ x, f a = .ok x) ∧ FirstError f l e := by
  constructor
  · rintro ⟨before, b, after, heq, hbefore, hb⟩
    cases before with
    | nil =>
      cases heq
      exact .inl hb
    | cons c before =>
      cases heq
      rw [List.forall_mem_cons] at hbefore
      exact .inr ⟨hbefore.1, before, b, after, rfl, hbefore.2, hb⟩
  · rintro (ha | ⟨hok, before, b, after, rfl, hbefore, hb⟩)
    · exact ⟨[], a, l, rfl, nofun, ha⟩
    · exact ⟨a :: before, b, after, rfl, List.forall_mem_cons.mpr ⟨hok, hbefore⟩, hb⟩

theorem mapM_error_iff {f : α → Except ε β} {l : List α} {e : ε} :
    l.mapM f = .error e ↔ FirstError f l e := by
  induction l with
  | nil =>
    refine ⟨fun h => (by cases h), ?_⟩
    rintro ⟨before, b, after, heq, -⟩
    exact absurd heq.symm (List.append_ne_nil_of_right_ne_nil before (List.cons_ne_nil b after))
  | cons a l ih =>
    rw [List.mapM_cons, firstError_cons_iff, ← ih]
    cases ha : f a with
    | error e' => simp [bind, Except.bind]
    | ok b => cases hl : l.mapM f <;> simp [bind, Except.bind, pure, Except.pure]

/-- Where every element passes the first of two phases, both may be done element by element. -/
theorem mapM_two_phases {f : α → Except ε β} {g : β → Except ζ γ} {into : ε → ζ} {l : List α}
    (h : ∀ a ∈ l, ∃ b, f a = .ok b) :
    ((l.mapM f).mapError into >>= fun bs => bs.mapM g) =
      l.mapM fun a => (f a).mapError into >>= g := by
  induction l with
  | nil => rfl
  | cons a l ih =>
    rw [List.forall_mem_cons] at h
    obtain ⟨b, hb⟩ := h.1
    obtain ⟨bs, hbs⟩ := Draft.exists_forall₂ h.2
    have hl : l.mapM f = .ok bs := mapM_ok_iff.mpr hbs
    rw [List.mapM_cons, List.mapM_cons, ← ih h.2, hb, hl]
    change (b :: bs).mapM g = _
    rw [List.mapM_cons]
    rfl

theorem mapM_eq_of_forall₂ {f : α → Except ε γ} {g : β → Except ε γ} {l : List α} {m : List β}
    (h : List.Forall₂ (fun a b => f a = g b) l m) : l.mapM f = m.mapM g := by
  induction h with
  | nil => rfl
  | cons hab _ ih => rw [List.mapM_cons, List.mapM_cons, hab, ih]

theorem exists_of_forall₂ {R : α → β → Prop} {l : List α} {m : List β} (h : List.Forall₂ R l m) :
    ∀ a ∈ l, ∃ b, R a b := by
  induction h with
  | nil => exact nofun
  | cons hab _ ih => exact List.forall_mem_cons.mpr ⟨⟨_, hab⟩, ih⟩

end Traversal

theorem Reading.get_of_ok {α : Type} (d : Draft) (read : Draft → Except Fault α) :
    Reading.get { root := d, rest := .ok () } read = read d := by
  rw [Reading.get]
  cases read d <;> rfl

namespace Plan

variable {p : Plan} {text : String}

/-- Settling an object never finds a fault of its text. -/
theorem finish_ne_json (held : Held) (f : Fault) : p.finish held ≠ .error (.json f) := by
  rw [finish]
  cases held.selected with
  | none => simp
  | some v =>
    dsimp only
    rw [assign_eq]
    cases (Entries.keys held.entries).find? fun k => !v.holds k with
    | none =>
      intro h
      cases h
    | some key =>
      intro h
      cases h

theorem decode_json_iff_get {f : Fault} :
    p.decode text = .error (.json f) ↔ (Json.read text).get p.readHeld = .error f := by
  rw [decode]
  cases (Json.read text).get p.readHeld with
  | error g => simp [bind, Except.bind, Except.mapError]
  | ok held =>
    constructor
    · exact fun h => absurd h (finish_ne_json held f)
    · intro h
      cases h

/-! Texts that do not open a table. -/

def NoObject (d : Draft) : Prop :=
  (∀ members, d.value ≠ .ok (.obj members)) ∧ ∀ p : Plan, ∃ f, p.readHeld d = .error f

theorem noObject_scalar {s : Scalar} (h : ∀ members, s.value ≠ .ok (.obj members)) :
    NoObject (.scalar s) :=
  ⟨h, fun _ => ⟨_, rfl⟩⟩

theorem noObject_malformed : NoObject Draft.malformedPart.1 :=
  ⟨fun _ h => (by cases h), fun _ => ⟨_, rfl⟩⟩

theorem noObject_list (depth : Nat) (surplus : Option Fault) (items : List Draft) :
    NoObject (Draft.atDepth depth (.list surplus items)) := by
  rw [Draft.atDepth]
  split
  · refine ⟨fun members h => ?_, fun _ => ⟨_, rfl⟩⟩
    obtain ⟨_, _, h⟩ := bind_eq_ok h
    cases h
  · exact ⟨fun _ h => (by cases h), fun _ => ⟨_, rfl⟩⟩

theorem noObject_readWord {word : String} {v : Json} (h : NoObject (Draft.ofJsonScalar v))
    (s : List Char) : NoObject (Draft.readWord word v s).1 := by
  rw [Draft.readWord]
  split
  · exact h
  · exact noObject_malformed

theorem noObject_readString (s : List Char) : NoObject (Draft.readString s).1 := by
  rw [Draft.readString]
  split
  · exact noObject_malformed
  · split
    · exact noObject_scalar fun _ h => by cases h
    · exact noObject_scalar fun _ h => by cases h

theorem value_ne_obj {n : Json.Numeral} {members : Entries Json} :
    n.value ≠ some (.obj members) := by
  intro h
  unfold Json.Numeral.value at h
  dsimp only at h
  split at h
  · cases h
  · obtain ⟨d, -, h⟩ := Option.map_eq_some_iff.mp h
    cases h

theorem noObject_readNumber (s : List Char) : NoObject (Draft.readNumber s).1 := by
  rw [Draft.readNumber]
  split
  · exact noObject_malformed
  · split
    · next h => exact noObject_scalar fun members heq => value_ne_obj (Except.ok.inj heq ▸ h)
    · exact noObject_scalar fun _ h => by cases h

theorem noObject_readValue (fuel depth : Nat) {s : List Char}
    (hopens : (Json.skipSpace s).head? ≠ some '\x7b') :
    NoObject (Draft.readValue fuel depth s).1 := by
  cases fuel with
  | zero =>
    rw [Draft.readValue]
    exact noObject_malformed
  | succ fuel =>
    rw [Draft.readValue]
    split
    · exact noObject_malformed
    · exact noObject_readString _
    · exact noObject_list _ _ _
    · next heq =>
      rw [heq] at hopens
      exact absurd rfl hopens
    · split_ifs
      · exact noObject_readWord (noObject_scalar fun _ h => by cases h) _
      · exact noObject_readWord (noObject_scalar fun _ h => by cases h) _
      · exact noObject_readWord (noObject_scalar fun _ h => by cases h) _
      · exact noObject_readNumber _
      · exact noObject_malformed

/-- What is decoded from a text has a fault of the text exactly when its value is no object. -/
theorem decode_json_iff :
    (∃ f, p.decode text = .error (.json f)) ↔ ∀ members, Json.parse text ≠ .ok (.obj members) := by
  simp only [decode_json_iff_get]
  by_cases hopens : (Json.skipSpace text.toList).head? = some '\x7b'
  · obtain ⟨entries, hroot⟩ := exists_dict_read hopens
    have hget := get_readHeld (p := p) hopens
    rw [parse_eq hopens, hget]
    cases (Json.read text).get Draft.pairs with
    | error f => simp [Except.map]
    | ok l => simp [Except.map]
  · obtain ⟨hvalue, hheld⟩ := noObject_readValue (2 * text.toList.length + 2) 0 hopens
    rw [← Json.root_read] at hvalue
    simp only [← Json.root_read] at hheld
    obtain ⟨f, hf⟩ := hheld p
    constructor
    · exact fun _ members h => hvalue members (Reading.of_get h)
    · intro _
      refine ⟨f, ?_⟩
      rw [Reading.get, hf]
      rfl

/-- A text has a value that is an object exactly when it can be held. -/
theorem get_readHeld_ok_iff :
    (∃ held, (Json.read text).get p.readHeld = .ok held) ↔
      ∃ members, Json.parse text = .ok (.obj members) := by
  have hjson : ¬ (∃ f, p.decode text = .error (.json f)) ↔
      ¬ ∀ members, Json.parse text ≠ .ok (.obj members) := decode_json_iff.not
  rw [not_exists, not_forall] at hjson
  simp only [decode_json_iff_get, not_not] at hjson
  rw [← hjson]
  cases (Json.read text).get p.readHeld with
  | ok held => simp
  | error f => simp

/-! Lists. -/

section Items

variable {n : Nat} {items : List String}

/-- The items of a list are held one after the other, each as it is when it stands alone. -/
theorem decodeList_eq (hn : n + 1 ≤ Json.maxDepth)
    (h : Json.IsListText n text.toList (items.map String.toList)) :
    p.decodeList text =
      (items.mapM fun item => (Json.read item).get p.readHeld).mapError .json >>= fun held =>
        held.mapM p.finish := by
  obtain ⟨drafts, hdrafts, hlist⟩ := Draft.exists_reads_listText h
  rw [List.forall₂_map_left_iff] at hdrafts
  have hitems : (items.mapM fun item => (Json.read item).get p.readHeld) =
      drafts.mapM p.readHeld := by
    refine mapM_eq_of_forall₂ (hdrafts.imp fun item d hd => ?_)
    rw [hd.read_eq (by omega), Reading.get_of_ok]
  rw [decodeList, hlist.read_eq hn, Reading.get_of_ok, hitems]
  rfl

theorem decodeList_of_objects (hn : n + 1 ≤ Json.maxDepth)
    (h : Json.IsListText n text.toList (items.map String.toList))
    (hobjects : ∀ item ∈ items, ∃ members, Json.parse item = .ok (.obj members)) :
    p.decodeList text = items.mapM p.decode := by
  rw [decodeList_eq hn h, mapM_two_phases fun item hitem => get_readHeld_ok_iff.mpr
    (hobjects item hitem)]
  rfl

/-- Settling finds no fault of the text, so such a fault is the first that holding finds. -/
theorem decodeList_json_iff (hn : n + 1 ≤ Json.maxDepth)
    (h : Json.IsListText n text.toList (items.map String.toList)) {f : Fault} :
    p.decodeList text = .error (.json f) ↔
      FirstError (fun item => (Json.read item).get p.readHeld) items f := by
  rw [decodeList_eq hn h, ← mapM_error_iff]
  cases items.mapM fun item => (Json.read item).get p.readHeld with
  | error g => simp [bind, Except.bind, Except.mapError]
  | ok held =>
    constructor
    · intro hf
      obtain ⟨_, object, _, _, _, hobject⟩ := mapM_error_iff.mp hf
      exact absurd hobject (finish_ne_json object f)
    · intro hf
      cases hf

theorem decodeList_faulty_iff (hn : n + 1 ≤ Json.maxDepth)
    (h : Json.IsListText n text.toList (items.map String.toList)) :
    (∃ f, p.decodeList text = .error (.json f)) ↔
      ∃ item ∈ items, ∀ members, Json.parse item ≠ .ok (.obj members) := by
  simp only [decodeList_json_iff hn h, ← mapM_error_iff]
  constructor
  · rintro ⟨f, hf⟩
    obtain ⟨before, item, after, rfl, -, hitem⟩ := mapM_error_iff.mp hf
    exact ⟨item, by simp, (decode_json_iff (p := p)).mp ⟨f, decode_json_iff_get.mpr hitem⟩⟩
  · rintro ⟨item, hitem, hno⟩
    cases hheld : items.mapM fun item => (Json.read item).get p.readHeld with
    | error f => exact ⟨f, rfl⟩
    | ok held =>
      -- Then this item was held too, and it has a value.
      obtain ⟨members, hmembers⟩ :=
        get_readHeld_ok_iff.mp (exists_of_forall₂ (mapM_ok_iff.mp hheld) item hitem)
      exact absurd hmembers (hno members)

/-- What a list comes to, said of its items when each of them stands alone. -/
structure DecodesItems (p : Plan) (text : String) (items : List String) : Prop where
  /-- It is accepted when each item is, with what they come to in order. -/
  accepted : ∀ out, p.decodeList text = .ok out ↔
    List.Forall₂ (fun item d => p.decode item = .ok d) items out
  /-- An item whose value is no object, or that has no value, is a fault whatever the others are. -/
  faulty : (∃ f, p.decodeList text = .error (.json f)) ↔
    ∃ item ∈ items, ∀ members, Json.parse item ≠ .ok (.obj members)
  /-- The fault is that of the first such item. -/
  fault : ∀ f, p.decodeList text = .error (.json f) ↔
    ∃ before item after, items = before ++ item :: after ∧
      (∀ other ∈ before, ∃ members, Json.parse other = .ok (.obj members)) ∧
        p.decode item = .error (.json f)
  /-- Without such an item it fails as the first item that fails. -/
  failed : (∀ item ∈ items, ∃ members, Json.parse item = .ok (.obj members)) →
    ∀ e, p.decodeList text = .error e ↔ FirstError p.decode items e

theorem decodesItems (p : Plan) (hn : n + 1 ≤ Json.maxDepth)
    (h : Json.IsListText n text.toList (items.map String.toList)) : p.DecodesItems text items := by
  have hobject : ∀ item d, p.decode item = .ok d →
      ∃ members, Json.parse item = .ok (.obj members) := by
    intro item d hd
    by_contra hno
    obtain ⟨f, hf⟩ := decode_json_iff.mpr (not_exists.mp hno)
    rw [hd] at hf
    cases hf
  refine ⟨fun out => ⟨fun hout => ?_, fun hout => ?_⟩, decodeList_faulty_iff hn h, fun f => ?_,
    fun hobjects e => ?_⟩
  · have hobjects : ∀ item ∈ items, ∃ members, Json.parse item = .ok (.obj members) := by
      intro item hitem
      by_contra hno
      obtain ⟨f, hf⟩ := (decodeList_faulty_iff hn h).mpr ⟨item, hitem, not_exists.mp hno⟩
      rw [hout] at hf
      cases hf
    rw [← mapM_ok_iff, ← decodeList_of_objects hn h hobjects, hout]
  · have hobjects : ∀ item ∈ items, ∃ members, Json.parse item = .ok (.obj members) := by
      intro item hitem
      obtain ⟨d, hd⟩ := exists_of_forall₂ hout item hitem
      exact hobject item d hd
    rw [decodeList_of_objects hn h hobjects]
    exact mapM_ok_iff.mpr hout
  · rw [decodeList_json_iff hn h]
    simp only [FirstError, get_readHeld_ok_iff, ← decode_json_iff_get]
  · rw [decodeList_of_objects hn h hobjects]
    exact mapM_error_iff

end Items

/-- Every well-formed text of a list is decoded as its items are. -/
theorem decodeList_items {n : Nat} (hn : n + 1 ≤ Json.maxDepth)
    (htext : Json.IsText (n + 1) text.toList)
    (hopens : (Json.skipSpace text.toList).head? = some '[') :
    (∃ items : List String, Json.IsListText n text.toList (items.map String.toList)) ∧
      ∀ items : List String, Json.IsListText n text.toList (items.map String.toList) →
        p.DecodesItems text items := by
  refine ⟨?_, fun items h => decodesItems p hn h⟩
  obtain ⟨items, hitems⟩ := Draft.exists_isListText htext hopens
  refine ⟨items.map String.ofList, ?_⟩
  rw [List.map_map]
  have hid : String.toList ∘ String.ofList = id := funext fun s => String.toList_ofList
  rw [hid, List.map_id]
  exact hitems

/-- A table of one entry. -/
theorem isText_entry {n : Nat} {body value : List Char} (hbody : Json.IsStringBody body)
    (hvalue : Json.IsText n value) :
    Json.IsText (n + 1) ('\x7b' :: ('"' :: (body ++ '"' :: ':' :: value) ++ ['\x7d'])) := by
  have h : Json.IsText (n + 1) ('\x7b' :: (Json.joined
      ([('"' :: (body ++ ['"']), value)].map fun e => e.1 ++ ':' :: e.2) ++ ['\x7d'])) :=
    .table (List.cons_ne_nil _ _)
      (List.forall_mem_singleton.mpr ⟨[], body, [], nofun, hbody, nofun, rfl⟩)
      (List.forall_mem_singleton.mpr hvalue)
  simpa [Draft.joined_singleton] using h

/-- An object of no variant, and one with a number beyond the doubles. -/
def strangeAndBeyond : List String := ["\x7b\"z\":1\x7d", "\x7b\"meow\":1e999\x7d"]

def strangeAndBeyondText : String := "[\x7b\"z\":1\x7d,\x7b\"meow\":1e999\x7d]"

theorem isListText_strangeAndBeyond (n : Nat) :
    Json.IsListText (n + 1) strangeAndBeyondText.toList (strangeAndBeyond.map String.toList) := by
  have hdigit : Json.IsDigits ['1'] := ⟨by decide, List.all_eq_true.mp (by decide)⟩
  have hdigits : Json.IsDigits ['9', '9', '9'] := ⟨by decide, List.all_eq_true.mp (by decide)⟩
  have hone : Json.IsNumber ([] ++ (['1'] ++ ([] ++ []))) :=
    .ofParts (.inl rfl) hdigit (by decide) (.inl rfl) (.inl rfl)
  have hexponent : Json.IsExponent ['e', '9', '9', '9'] :=
    ⟨'e', by decide, [], by decide, ['9', '9', '9'], hdigits, rfl⟩
  have hbeyond : Json.IsNumber ([] ++ (['1'] ++ ([] ++ ['e', '9', '9', '9']))) :=
    .ofParts (.inl rfl) hdigit (by decide) (.inl rfl) (.inr hexponent)
  have hz : Json.IsStringBody ['z'] := .plain (by decide) (by decide) (by decide) .done
  have hmeow : Json.IsStringBody ['m', 'e', 'o', 'w'] :=
    .plain (by decide) (by decide) (by decide) <| .plain (by decide) (by decide) (by decide) <|
      .plain (by decide) (by decide) (by decide) <| .plain (by decide) (by decide) (by decide) .done
  have htexts : ∀ item ∈ strangeAndBeyond.map String.toList, Json.IsText (n + 1) item :=
    List.forall_mem_cons.mpr ⟨isText_entry hz (.number hone),
      List.forall_mem_singleton.mpr (isText_entry hmeow (.number hbeyond))⟩
  exact .items (List.cons_ne_nil _ _) htexts

/-- The second object is a fault although the first is one that cannot be settled. -/
theorem strangeAndBeyond_faulty :
    2 + 1 ≤ Json.maxDepth ∧ Json.IsText (2 + 1) strangeAndBeyondText.toList ∧
      (Json.skipSpace strangeAndBeyondText.toList).head? = some '[' ∧
        petPlan.decodeList strangeAndBeyondText = .error (.json .malformed) := by
  have hn : 2 + 1 ≤ Json.maxDepth := by decide
  have htext : Json.IsText (2 + 1) strangeAndBeyondText.toList :=
    (isListText_strangeAndBeyond 1).isText
  have hopens : (Json.skipSpace strangeAndBeyondText.toList).head? = some '[' := by
    decide
  have hitems := (decodeList_items (p := petPlan) hn htext hopens).2 strangeAndBeyond
    (isListText_strangeAndBeyond 1)
  have hobject : Json.parse "\x7b\"z\":1\x7d" = .ok (.obj [("z", .int 1)]) := by cbv
  refine ⟨hn, htext, hopens, (hitems.fault _).mpr ⟨["\x7b\"z\":1\x7d"], _, [], rfl, ?_, by cbv⟩⟩
  exact List.forall_mem_singleton.mpr ⟨_, hobject⟩

/-- So a list of objects need not fail as the first of them that fails. -/
theorem strangeAndBeyond_not_firstError :
    ¬ ∀ (p : Plan) (text : String) (items : List String),
      Json.IsListText (Json.maxDepth - 1) text.toList (items.map String.toList) →
        (∀ item ∈ items, (Json.skipSpace item.toList).head? = some '\x7b') →
          ∀ e, p.decodeList text = .error e ↔ FirstError p.decode items e := by
  intro h
  have hopens : ∀ item ∈ strangeAndBeyond, (Json.skipSpace item.toList).head? = some '\x7b' := by
    decide
  have hiff := h petPlan strangeAndBeyondText strangeAndBeyond (isListText_strangeAndBeyond 125)
    hopens (.ambiguousUnion "PetOneOf")
  have hfirst : petPlan.decode "\x7b\"z\":1\x7d" = .error (.ambiguousUnion "PetOneOf") := by cbv
  have hlist : petPlan.decodeList strangeAndBeyondText = .error (.json .malformed) := by cbv
  rw [hlist] at hiff
  have herror : FirstError petPlan.decode strangeAndBeyond (.ambiguousUnion "PetOneOf") :=
    firstError_cons_iff.mpr (.inl hfirst)
  have hsame := hiff.mpr herror
  simp at hsame

end Plan

end ApiForge
