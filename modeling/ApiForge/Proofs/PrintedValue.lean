import ApiForge.Json.Printer
import ApiForge.Proofs.DoubleText
import ApiForge.Proofs.JsonReading

/-!
The compact texts of JSON values. The first character of a text tells the kind of its value, and the
text ends where the value does, so that texts that go on alike are those of one value. Main
statement: values with the same text are the same (`render_injective`).
-/

namespace ApiForge.Json

mutual

/-- All doubles in a value are as the operations round to them. -/
def Exact : Json → Prop
  | real d => d.Rounded
  | arr items => ItemsExact items
  | obj members => MembersExact members
  | _ => True

def ItemsExact : List Json → Prop
  | [] => True
  | v :: rest => Exact v ∧ ItemsExact rest

def MembersExact : List (String × Json) → Prop
  | [] => True
  | (_, v) :: rest => Exact v ∧ MembersExact rest

end

/-! Strings. -/

/-- The ways in which a character stands in a string. -/
inductive Escapes (c : Char) : List Char → Prop
  | plain (hc : 32 ≤ c.toNat) (hquote : c ≠ '"') (hslash : c ≠ '\\') : Escapes c [c]
  | letter {e : Char} (hunit : e ≠ 'u') (h : simpleEscape e = some c) : Escapes c ['\\', e]
  | unit {a b x y : Char} (hc : c.toNat < 32) (h : Text.numberIn 16 [a, b, x, y] = some c.toNat) :
      Escapes c ['\\', 'u', a, b, x, y]

theorem escapes_escapeChar (c : Char) : Escapes c (escapeChar c) := by
  have hcontrol : ∀ n < 32,
      Text.numberIn 16 ['0', '0', hexDigit (n / 16), hexDigit n] = some n := by decide
  rw [escapeChar]
  split_ifs with hquote hslash hfeed hreturn htab hback hform hlow
  · subst hquote
    exact .letter (by decide) rfl
  · subst hslash
    exact .letter (by decide) rfl
  · exact .letter (by decide) (hfeed ▸ rfl)
  · exact .letter (by decide) (hreturn ▸ rfl)
  · exact .letter (by decide) (htab ▸ rfl)
  · obtain rfl : c = '\x08' := Char.toNat_inj.mp hback
    exact .letter (by decide) rfl
  · obtain rfl : c = '\x0c' := Char.toNat_inj.mp hform
    exact .letter (by decide) rfl
  · exact .unit hlow (hcontrol c.toNat hlow)
  · exact .plain (not_lt.mp hlow) hquote hslash

theorem ofUnit_toNat {c : Char} (h : c.toNat < 32) : Piece.ofUnit c.toNat = .char c := by
  have hlow : ¬ (decide (0xD800 ≤ c.toNat) && decide (c.toNat ≤ 0xDFFF)) = true := by
    simp only [Bool.and_eq_true, decide_eq_true_eq]
    omega
  rw [Piece.ofUnit, if_neg hlow, Char.ofNat_toNat]

theorem readPieces_escapes {c : Char} {s : List Char} (h : Escapes c s) (rest : List Char) :
    readPieces (s ++ rest) =
      (readPieces rest).map fun (pieces, left) => (.char c :: pieces, left) := by
  cases h with
  | plain hc hquote hslash =>
    have hplain : ¬ (decide (c.toNat < 32) || c == '\\') = true := by simp [hslash, hc]
    rw [List.singleton_append, readPieces, if_neg hplain]
    · cases readPieces rest <;> rfl
    · exact hquote
    · rintro a b c d r rfl
      exact absurd rfl hslash
    · rintro a b rfl
      exact absurd rfl hslash
  | letter hunit h =>
    rw [List.cons_append, List.singleton_append, readPieces, h]
    · cases readPieces rest <;> rfl
    · exact fun _ _ _ _ _ hu _ => hunit hu
  | unit hc h =>
    simp only [List.cons_append, List.nil_append]
    rw [readPieces, h]
    change (readPieces rest).bind _ = _
    rw [ofUnit_toNat hc]
    cases readPieces rest <;> rfl

/-- A string is read back as it was. -/
theorem readPieces_quoted (s rest : List Char) :
    readPieces (s.flatMap escapeChar ++ '"' :: rest) = some (s.map .char, rest) := by
  induction s with
  | nil => rfl
  | cons c s ih =>
    rw [List.flatMap_cons, List.append_assoc, readPieces_escapes (escapes_escapeChar c), ih]
    rfl

theorem quote_append_inj {a b : String} {s t : List Char} (h : quote a ++ s = quote b ++ t) :
    a = b ∧ s = t := by
  have hread : ∀ (c : String) (u : List Char), quote c ++ u =
      '"' :: (c.toList.flatMap escapeChar ++ '"' :: u) := fun c u => by simp [quote]
  rw [hread, hread, List.cons.injEq] at h
  have hpieces := congrArg readPieces h.2
  rw [readPieces_quoted, readPieces_quoted, Option.some.injEq, Prod.mk.injEq] at hpieces
  have hchars := List.map_injective_iff.mpr (fun _ _ => Piece.char.inj) hpieces.1
  exact ⟨String.toList_inj.mp hchars, hpieces.2⟩

/-! Whole numbers. -/

theorem toList_toString_int (k : ℤ) :
    (toString k).toList =
      if decide (k < 0) then '-' :: Nat.toDigits 10 k.natAbs else Nat.toDigits 10 k.natAbs := by
  rw [Int.toString_eq_repr, Int.repr_eq_if]
  by_cases hk : 0 ≤ k
  · have habs : k.toNat = k.natAbs := by omega
    rw [if_pos hk, if_neg (by simpa using hk), Nat.toList_repr, habs]
  · have habs : (-k).toNat = k.natAbs := by omega
    rw [if_neg hk, if_pos (by simpa using hk), String.toList_append, Nat.toList_repr, habs]
    rfl

theorem spells_int (k : ℤ) :
    Spells (toString k).toList
      ⟨decide (k < 0), (Nat.toDigits 10 k.natAbs).map digitOf, none, none⟩ := by
  rw [toList_toString_int]
  refine SpellsUnsigned.spells
    (n := ⟨decide (k < 0), (Nat.toDigits 10 k.natAbs).map digitOf, none, none⟩)
    fun rest hrest => ?_
  have hzero : (Nat.toDigits 10 k.natAbs).head? = some '0' →
      Nat.toDigits 10 k.natAbs = ['0'] := by
    intro hhead
    rcases Nat.eq_zero_or_pos k.natAbs with hk | hk
    · rw [hk]
      rfl
    · exact absurd hhead (Double.leading_toDigits hk).head_ne
  have hfraction : Numeral.readFraction rest = some (none, rest) := by
    refine Numeral.readFraction.eq_2 _ fun t heq => ?_
    rw [heq] at hrest
    exact absurd (hrest.of_mem_head? rfl).2 (by decide)
  exact readUnsigned_parts (isDigits_toDigits _) hzero hrest.noDigit hfraction
    (readExponent_nil hrest) _

theorem int_append_inj {a b : ℤ} {s t : List Char} (hs : Ends s) (ht : Ends t)
    (h : (toString a).toList ++ s = (toString b).toList ++ t) : a = b ∧ s = t := by
  have hread := spells_int a s hs
  rw [h, spells_int b t ht, Option.some.injEq, Prod.mk.injEq, Numeral.mk.injEq] at hread
  obtain ⟨⟨hsign, hdigits, -⟩, hrest⟩ := hread
  have hvalue := congrArg digitsValue hdigits
  rw [digitsValue_map_digitOf, digitsValue_map_digitOf, Nat.ofDigitChars_ten_toDigits,
    Nat.ofDigitChars_ten_toDigits] at hvalue
  have hneg := decide_eq_decide.mp hsign
  exact ⟨by omega, hrest.symm⟩

/-- No whole number is written like a double. -/
theorem int_append_ne_real {k : ℤ} {d : Double} (hd : d.Rounded) {s t : List Char} (hs : Ends s)
    (ht : Ends t) : (toString k).toList ++ s ≠ d.render.toList ++ t := by
  intro h
  obtain ⟨n, hn, hpart, -⟩ := Double.exists_spells_render hd
  have hread := spells_int k s hs
  rw [h, hn t ht, Option.some.injEq, Prod.mk.injEq] at hread
  rw [hread.1] at hpart
  rcases hpart with hpart | hpart
  · cases hpart
  · cases hpart

/-! The kinds of values. -/

/-- What the first character of a value tells about it. -/
inductive Kind where
  | null | flag (b : Bool) | number | text | list | table
  deriving DecidableEq

def kind : Json → Kind
  | null => .null
  | bool b => .flag b
  | int _ => .number
  | real _ => .number
  | str _ => .text
  | arr _ => .list
  | obj _ => .table

def kindOf (c : Char) : Option Kind :=
  if c = 'n' then some .null
  else if c = 't' then some (.flag true)
  else if c = 'f' then some (.flag false)
  else if c = '"' then some .text
  else if c = '[' then some .list
  else if c = '\x7b' then some .table
  else if c = '-' ∨ c.isDigit = true then some .number
  else none

theorem kindOf_number {c : Char} (hc : c = '-' ∨ c.isDigit = true) :
    kindOf c = some .number := by
  have hother : ['"', '[', '\x7b', 'n', 't', 'f'] ⊆
      [' ', '\t', '\n', '\r', '"', '[', ']', '\x7b', 'n', 't', 'f'] := by decide
  have hne : ∀ x ∈ ['"', '[', '\x7b', 'n', 't', 'f'], c ≠ x := fun x hx =>
    Draft.ne_of_number hc (hother hx)
  simp only [List.forall_mem_cons] at hne
  obtain ⟨hquote, hlist, htable, hn, ht, hf, -⟩ := hne
  rw [kindOf, if_neg hn, if_neg ht, if_neg hf, if_neg hquote, if_neg hlist, if_neg htable,
    if_pos hc]

/-- A number starts with its sign or a digit. -/
theorem Spells.head {s : List Char} {n : Numeral} (h : Spells s n) :
    ∃ c t, s = c :: t ∧ kindOf c = some .number := by
  have hread := h [] nofun
  rw [List.append_nil] at hread
  cases s with
  | nil => simp [Numeral.read?, spanDigits] at hread
  | cons c t =>
    refine ⟨c, t, rfl, kindOf_number ?_⟩
    by_contra hc
    rw [not_or] at hc
    rw [Numeral.read?_eq fun u hu => hc.1 (List.head_eq_of_cons_eq hu)] at hread
    simp [Numeral.readUnsigned, spanDigits, hc.2] at hread

theorem exists_head_chars {v : Json} (hv : v.Exact) :
    ∃ c t, chars v = c :: t ∧ kindOf c = some v.kind := by
  cases v with
  | null => exact ⟨_, _, rfl, rfl⟩
  | bool b => cases b <;> exact ⟨_, _, rfl, rfl⟩
  | int k => exact (spells_int k).head
  | real d =>
    obtain ⟨n, hn, -⟩ := Double.exists_spells_render hv
    exact hn.head
  | str s => exact ⟨_, _, rfl, rfl⟩
  | arr items => exact ⟨_, _, rfl, rfl⟩
  | obj members => exact ⟨_, _, rfl, rfl⟩

theorem kind_eq_of_append {v w : Json} (hv : v.Exact) (hw : w.Exact) {s t : List Char}
    (h : chars v ++ s = chars w ++ t) : v.kind = w.kind := by
  obtain ⟨c, a, hc, hkind⟩ := exists_head_chars hv
  obtain ⟨d, b, hd, hkind'⟩ := exists_head_chars hw
  rw [hc, hd] at h
  have hhead : c = d := List.head_eq_of_cons_eq h
  rw [hhead, hkind'] at hkind
  exact (Option.some.inj hkind).symm

theorem number_append_inj {v w : Json} (hv : v.Exact) (hw : w.Exact) (hkind : v.kind = .number)
    (hkind' : w.kind = .number) {s t : List Char} (hs : Ends s) (ht : Ends t)
    (h : chars v ++ s = chars w ++ t) : v = w ∧ s = t := by
  cases v with
  | int a =>
    cases w with
    | int b => exact (int_append_inj hs ht h).imp_left (congrArg int)
    | real d => exact absurd h (int_append_ne_real hw hs ht)
    | _ => cases hkind'
  | real d =>
    cases w with
    | int b => exact absurd h.symm (int_append_ne_real hv ht hs)
    | real f => exact (Double.render_append_inj hv hw hs ht h).imp_left (congrArg real)
    | _ => cases hkind'
  | _ => cases hkind

/-- No value starts with the sign that a list or an object closes. -/
theorem chars_append_ne {v : Json} (hv : v.Exact) {close : Char} (hclose : close ∈ [']', '\x7d'])
    (s t : List Char) : chars v ++ s ≠ close :: t := by
  have hnone : kindOf close = none := by
    simp only [List.mem_cons, List.not_mem_nil, or_false] at hclose
    rcases hclose with rfl | rfl
    · rfl
    · rfl
  obtain ⟨c, rest, hc, hkind⟩ := exists_head_chars hv
  intro h
  rw [hc] at h
  rw [show c = close from List.head_eq_of_cons_eq h, hnone] at hkind
  cases hkind

/-! Lists and objects. -/

theorem itemChars_eq (items : List Json) : itemChars items = joined (items.map chars) := by
  induction items with
  | nil => rfl
  | cons v rest ih =>
    cases rest with
    | nil => exact (Draft.joined_singleton _).symm
    | cons w rest =>
      have hne : (w :: rest).map chars ≠ [] := List.cons_ne_nil _ _
      rw [itemChars, ih]
      · exact (Draft.joined_cons hne).symm
      · exact List.cons_ne_nil w rest

def memberText (m : String × Json) : List Char := quote m.1 ++ ':' :: chars m.2

theorem memberChars_eq (members : List (String × Json)) :
    memberChars members = joined (members.map memberText) := by
  induction members with
  | nil => rfl
  | cons m rest ih =>
    cases rest with
    | nil => exact (Draft.joined_singleton _).symm
    | cons w rest =>
      have hne : (w :: rest).map memberText ≠ [] := List.cons_ne_nil _ _
      rw [memberChars, ih]
      · exact (Draft.joined_cons hne).symm
      · exact List.cons_ne_nil w rest

/-- The text of a list or an object after one of its parts, up to its end and what follows it. -/
def textAfter (close : Char) (parts : List (List Char)) (s : List Char) : List Char :=
  if parts = [] then close :: s else ',' :: (joined parts ++ close :: s)

section Joined

variable {close : Char}

theorem joined_cons_append (part : List Char) (parts : List (List Char)) (s : List Char) :
    joined (part :: parts) ++ close :: s = part ++ textAfter close parts s := by
  rw [textAfter]
  split
  · next hnil => rw [hnil, Draft.joined_singleton]
  · next hne => rw [Draft.joined_cons hne, List.append_assoc, List.cons_append]

theorem ends_textAfter (hclose : close ∈ [']', '\x7d']) (parts : List (List Char))
    (s : List Char) : Ends (textAfter close parts s) := by
  rw [textAfter]
  split
  · exact Draft.ends_cons (List.mem_cons_of_mem _ hclose) s
  · exact Draft.ends_cons List.mem_cons_self _

theorem joined_eq_of_textAfter (hclose : close ∈ [']', '\x7d']) {parts others : List (List Char)}
    {s t : List Char} (h : textAfter close parts s = textAfter close others t) :
    joined parts ++ close :: s = joined others ++ close :: t := by
  have hcomma : close ≠ ',' := by
    rintro rfl
    exact absurd hclose (by decide)
  rw [textAfter, textAfter] at h
  split at h
  · next hnil =>
    split at h
    · next hnil' => rw [hnil, hnil', h]
    · exact absurd (List.head_eq_of_cons_eq h) hcomma
  · split at h
    · exact absurd (List.head_eq_of_cons_eq h).symm hcomma
    · exact List.tail_eq_of_cons_eq h

/-- Where parts can be told from texts that go on alike, so can what they make up. -/
theorem joined_append_inj {α : Type} {text : α → List Char} (hclose : close ∈ [']', '\x7d'])
    {vs ws : List α}
    (hinj : ∀ v ∈ vs, ∀ w ∈ ws, ∀ s t, Ends s → Ends t → text v ++ s = text w ++ t →
      v = w ∧ s = t)
    (hopen : ∀ v, v ∈ vs ∨ v ∈ ws → ∀ s t, text v ++ s ≠ close :: t) {s t : List Char}
    (h : joined (vs.map text) ++ close :: s = joined (ws.map text) ++ close :: t) :
    vs = ws ∧ s = t := by
  induction vs generalizing ws with
  | nil =>
    cases ws with
    | nil => exact ⟨rfl, List.tail_eq_of_cons_eq h⟩
    | cons w ws =>
      rw [List.map_cons, joined_cons_append] at h
      exact absurd h.symm (hopen w (.inr List.mem_cons_self) _ _)
  | cons v vs ih =>
    cases ws with
    | nil =>
      rw [List.map_cons, joined_cons_append] at h
      exact absurd h (hopen v (.inl List.mem_cons_self) _ _)
    | cons w ws =>
      rw [List.map_cons, List.map_cons, joined_cons_append, joined_cons_append] at h
      obtain ⟨rfl, hafter⟩ := hinj v List.mem_cons_self w List.mem_cons_self _ _
        (ends_textAfter hclose _ _) (ends_textAfter hclose _ _) h
      have hrest := ih
        (fun v hv w hw => hinj v (List.mem_cons_of_mem _ hv) w (List.mem_cons_of_mem _ hw))
        (fun v hv => hopen v (hv.imp (List.mem_cons_of_mem _) (List.mem_cons_of_mem _)))
        (joined_eq_of_textAfter hclose hafter)
      exact ⟨congrArg (v :: ·) hrest.1, hrest.2⟩

end Joined

theorem itemsExact_iff {items : List Json} : ItemsExact items ↔ ∀ v ∈ items, v.Exact := by
  induction items with
  | nil => exact ⟨nofun, fun _ => trivial⟩
  | cons v rest ih => rw [ItemsExact, List.forall_mem_cons, ih]

theorem membersExact_iff {members : List (String × Json)} :
    MembersExact members ↔ ∀ m ∈ members, m.2.Exact := by
  induction members with
  | nil => exact ⟨nofun, fun _ => trivial⟩
  | cons m rest ih => rw [MembersExact, List.forall_mem_cons, ih]

theorem memberText_append (m : String × Json) (s : List Char) :
    memberText m ++ s = quote m.1 ++ ':' :: (chars m.2 ++ s) := by
  rw [memberText, List.append_assoc, List.cons_append]

theorem memberText_append_ne (m : String × Json) {close : Char} (hclose : close ∈ [']', '\x7d'])
    (s t : List Char) : memberText m ++ s ≠ close :: t := by
  rw [memberText_append]
  intro h
  rw [← show '"' = close from List.head_eq_of_cons_eq h] at hclose
  exact absurd hclose (by decide)

/-- Values by their parts. -/
theorem json_induction {P : Json → Prop} (null : P .null) (bool : ∀ b, P (.bool b))
    (int : ∀ n, P (.int n)) (real : ∀ d, P (.real d)) (str : ∀ s, P (.str s))
    (arr : ∀ items, (∀ v ∈ items, P v) → P (.arr items))
    (obj : ∀ members, (∀ m ∈ members, P m.2) → P (.obj members)) : ∀ v, P v
  | .null => null
  | .bool b => bool b
  | .int n => int n
  | .real d => real d
  | .str s => str s
  | .arr items => arr items fun v _ => json_induction null bool int real str arr obj v
  | .obj members => obj members fun m _ => json_induction null bool int real str arr obj m.2
decreasing_by
  · have hlt := List.sizeOf_lt_of_mem ‹_ ∈ items›
    simp only [Json.arr.sizeOf_spec]
    omega
  · have hlt := List.sizeOf_lt_of_mem ‹_ ∈ members›
    obtain ⟨k, v⟩ := m
    simp only [Json.obj.sizeOf_spec, Prod.mk.sizeOf_spec] at hlt ⊢
    omega

/-- A text that goes on after the value is that of no other value, and goes on alike. -/
def Delimited (v : Json) : Prop :=
  ∀ w : Json, v.Exact → w.Exact → ∀ s t, Ends s → Ends t →
    chars v ++ s = chars w ++ t → v = w ∧ s = t

theorem delimited_arr {items : List Json} (h : ∀ v ∈ items, Delimited v) :
    Delimited (.arr items) := by
  intro w hv hw s t _ _ heq
  have hkind := kind_eq_of_append hv hw heq
  cases w with
  | arr others =>
    rw [Exact, itemsExact_iff] at hv hw
    have hrest : joined (items.map chars) ++ ']' :: s =
        joined (others.map chars) ++ ']' :: t := by
      simpa [chars, itemChars_eq] using heq
    refine (joined_append_inj (by decide) (fun v hvmem w hwmem s t hs ht =>
      h v hvmem w (hv v hvmem) (hw w hwmem) s t hs ht) ?_ hrest).imp_left (congrArg Json.arr)
    exact fun v hmem => chars_append_ne (hmem.elim (hv v) (hw v)) (by decide)
  | _ => cases hkind

theorem delimited_obj {members : List (String × Json)} (h : ∀ m ∈ members, Delimited m.2) :
    Delimited (.obj members) := by
  intro w hv hw s t _ _ heq
  have hkind := kind_eq_of_append hv hw heq
  cases w with
  | obj others =>
    rw [Exact, membersExact_iff] at hv hw
    have hrest : joined (members.map memberText) ++ '\x7d' :: s =
        joined (others.map memberText) ++ '\x7d' :: t := by
      simpa [chars, memberChars_eq] using heq
    refine (joined_append_inj (by decide) (fun v hvmem w hwmem s t hs ht hmember => ?_)
      (fun v _ => memberText_append_ne v (by decide)) hrest).imp_left (congrArg Json.obj)
    rw [memberText_append, memberText_append] at hmember
    obtain ⟨hkey, hvalue⟩ := quote_append_inj hmember
    obtain ⟨hsame, hend⟩ := h v hvmem w.2 (hv v hvmem) (hw w hwmem) s t hs ht
      (List.tail_eq_of_cons_eq hvalue)
    exact ⟨Prod.ext hkey hsame, hend⟩
  | _ => cases hkind

theorem delimited (v : Json) : Delimited v := by
  induction v using json_induction with
  | null =>
    intro w hv hw s t _ _ h
    have hkind := kind_eq_of_append hv hw h
    cases w with
    | null => exact ⟨rfl, List.append_cancel_left h⟩
    | _ => cases hkind
  | bool b =>
    intro w hv hw s t _ _ h
    have hkind := kind_eq_of_append hv hw h
    cases w with
    | bool c =>
      cases hkind
      exact ⟨rfl, List.append_cancel_left h⟩
    | _ => cases hkind
  | int n =>
    intro w hv hw s t hs ht h
    exact number_append_inj hv hw rfl (kind_eq_of_append hv hw h).symm hs ht h
  | real d =>
    intro w hv hw s t hs ht h
    exact number_append_inj hv hw rfl (kind_eq_of_append hv hw h).symm hs ht h
  | str a =>
    intro w hv hw s t _ _ h
    have hkind := kind_eq_of_append hv hw h
    cases w with
    | str b => exact (quote_append_inj h).imp_left (congrArg Json.str)
    | _ => cases hkind
  | arr items ih => exact delimited_arr ih
  | obj members ih => exact delimited_obj ih

/-- Values with the same text are the same. -/
theorem render_injective {v w : Json} (hv : v.Exact) (hw : w.Exact) (h : v.render = w.render) :
    v = w := by
  have hends : Ends [] := nofun
  have hchars : chars v ++ [] = chars w ++ [] := by
    rw [List.append_nil, List.append_nil]
    exact String.ofList_injective h
  exact (delimited v w hv hw [] [] hends hends hchars).1

end ApiForge.Json
