import ApiForge.Decimal.Notation
import ApiForge.Proofs.JsonText
import ApiForge.Proofs.ShortestDecimal

/-!
The texts of doubles. Written out or with an exponent, the text is that of the shortest decimal, it
is never that of a whole number, and it tells which double it is. Main statement: doubles with the
same text are the same (`render_injective`).
-/

namespace ApiForge.Json

def Numeral.shift (n : Numeral) : ℤ :=
  match n.exponent with
  | none => 0
  | some (negative, digits) => if negative then -(digitsValue digits : ℤ) else digitsValue digits

def Numeral.magnitude (n : Numeral) : ℚ :=
  digitsValue (n.whole ++ n.fraction.getD []) * 10 ^ (n.shift - (n.fraction.getD []).length)

/-- A text is read as a numeral, up to where it ends. -/
def Spells (s : List Char) (n : Numeral) : Prop :=
  ∀ rest, Ends rest → Numeral.read? (s ++ rest) = some (n, rest)

/-- A text is read as a numeral after its sign. -/
def SpellsUnsigned (s : List Char) (n : Numeral) : Prop :=
  ∀ rest, Ends rest → Numeral.readUnsigned n.negative (s ++ rest) = some (n, rest)

theorem digitsValue_map_digitOf (cs : List Char) :
    digitsValue (cs.map digitOf) = Nat.ofDigitChars 10 cs 0 := by
  rw [digitsValue, List.foldl_map, Nat.ofDigitChars_eq_foldl]
  refine List.foldl_ext _ _ _ fun n c _ => ?_
  rw [Nat.mul_comm]
  rfl

theorem isDigits_toDigits (n : ℕ) : IsDigits (Nat.toDigits 10 n) :=
  ⟨Nat.toDigits_ne_nil, fun _ hc => Nat.isDigit_of_mem_toDigits (by decide) (by decide) hc⟩

theorem isDigits_singleton {c : Char} (h : c.isDigit = true) : IsDigits [c] :=
  ⟨List.cons_ne_nil c [], List.forall_mem_singleton.mpr h⟩

theorem Ends.noDigit {rest : List Char} (h : Ends rest) : NoDigit rest :=
  fun _ hc => (h.of_mem_head? hc).1

theorem readExponent_nil {rest : List Char} (h : Ends rest) :
    Numeral.readExponent rest = some (none, rest) := by
  rw [Numeral.readExponent]
  · rintro r rfl
    exact absurd (h.of_mem_head? rfl).2 (by decide)
  · rintro r rfl
    exact absurd (h.of_mem_head? rfl).2 (by decide)

/-- A number with a point and without an exponent. -/
theorem spellsUnsigned_pointed {whole fraction : List Char} (hwhole : IsDigits whole)
    (hzero : whole.head? = some '0' → whole = ['0']) (hfraction : IsDigits fraction)
    (negative : Bool) :
    SpellsUnsigned (whole ++ '.' :: fraction)
      ⟨negative, whole.map digitOf, some (fraction.map digitOf), none⟩ := by
  intro rest hrest
  rw [List.append_assoc, List.cons_append]
  exact readUnsigned_parts hwhole hzero (fun c hc => by cases hc; rfl)
    (readFraction_digits hfraction hrest.noDigit) (readExponent_nil hrest) negative

theorem SpellsUnsigned.spells {s : List Char} {n : Numeral} (h : SpellsUnsigned s n) :
    Spells (if n.negative then '-' :: s else s) n := by
  intro rest hrest
  have hread := h rest hrest
  cases hnegative : n.negative with
  | true =>
    rw [hnegative] at hread
    rw [if_pos rfl, List.cons_append, Numeral.read?_minus]
    exact hread
  | false =>
    rw [hnegative] at hread
    rw [if_neg nofun, Numeral.read?_eq]
    · exact hread
    · -- A text that starts with a sign has no digits there.
      intro t heq
      rw [heq] at hread
      simp [Numeral.readUnsigned, spanDigits] at hread

end ApiForge.Json

namespace ApiForge.Double

open Json

/-- The digits of a decimal, the first of which is not zero. -/
structure Leading (digits : List Char) : Prop where
  isDigits : IsDigits digits
  head_ne : digits.head? ≠ some '0'

/-- A numeral writes digits with the first of them at a power of ten. -/
def Writes (n : Numeral) (digits : List Char) (exponent : ℤ) : Prop :=
  n.magnitude = Nat.ofDigitChars 10 digits 0 * 10 ^ (exponent + 1 - digits.length)

def HasPart (n : Numeral) : Prop := n.fraction.isSome = true ∨ n.exponent.isSome = true

theorem leading_toDigits {n : ℕ} (hn : 0 < n) : Leading (Nat.toDigits 10 n) := by
  refine ⟨isDigits_toDigits n, ?_⟩
  induction n using Nat.strongRecOn with
  | ind n ih =>
    by_cases hsmall : n < 10
    · rw [Nat.toDigits_of_lt_base hsmall, List.head?_cons, ne_eq, Option.some.injEq,
        Nat.digitChar_eq_zero]
      exact hn.ne'
    · rw [Nat.toDigits_of_base_le (by decide) (not_lt.mp hsmall),
        List.head?_append_of_ne_nil _ Nat.toDigits_ne_nil]
      exact ih _ (Nat.div_lt_self hn (by decide)) (Nat.div_pos (not_lt.mp hsmall) (by decide))

theorem isDigits_replicate_append (k : ℕ) {digits : List Char} (h : IsDigits digits) :
    IsDigits (List.replicate k '0' ++ digits) := by
  refine ⟨List.append_ne_nil_of_right_ne_nil _ h.1, List.forall_mem_append.mpr ⟨?_, h.2⟩⟩
  intro c hc
  rw [List.eq_of_mem_replicate hc]
  rfl

/-- The value of a numeral with a point, in terms of its characters. -/
theorem magnitude_pointed (negative : Bool) (whole fraction : List Char) :
    (⟨negative, whole.map digitOf, some (fraction.map digitOf), none⟩ : Numeral).magnitude =
      Nat.ofDigitChars 10 (whole ++ fraction) 0 * 10 ^ (-(fraction.length : ℤ)) := by
  rw [Numeral.magnitude, Numeral.shift, Option.getD_some, ← List.map_append,
    digitsValue_map_digitOf, List.length_map, zero_sub]

/-- A text is that of a number with a part, which writes digits with the first of them at a power
of ten. -/
def SpellsDigits (s : List Char) (negative : Bool) (digits : List Char) (exponent : ℤ) : Prop :=
  ∃ n : Numeral, n.negative = negative ∧ SpellsUnsigned s n ∧ HasPart n ∧ Writes n digits exponent

section Pointed

variable {digits : List Char} (h : Leading digits) {exponent : ℤ} (negative : Bool)
include h

/-- The digits follow zeros behind the point. -/
theorem spells_small (hexponent : exponent < 0) :
    SpellsDigits (pointed digits exponent) negative digits exponent := by
  have hfraction := isDigits_replicate_append (-exponent - 1).toNat h.isDigits
  have hvalue : Nat.ofDigitChars 10
      (['0'] ++ (List.replicate (-exponent - 1).toNat '0' ++ digits)) 0 =
        Nat.ofDigitChars 10 digits 0 := by
    rw [Nat.ofDigitChars_append, Nat.ofDigitChars_append, Nat.ofDigitChars_replicate_zero]
    rfl
  rw [pointed, if_pos hexponent]
  refine ⟨_, rfl, spellsUnsigned_pointed (isDigits_singleton rfl) (fun _ => rfl) hfraction
    negative, .inl rfl, ?_⟩
  rw [Writes, magnitude_pointed, hvalue, List.length_append, List.length_replicate]
  congr 2
  omega

/-- All digits stand before the point, with zeros up to it. -/
theorem spells_whole (hexponent : ¬ exponent < 0) (hlong : digits.length ≤ exponent.toNat + 1) :
    SpellsDigits (pointed digits exponent) negative digits exponent := by
  have hafter : (digits.drop (exponent.toNat + 1)).isEmpty = true := by
    rw [List.isEmpty_iff, List.drop_eq_nil_iff]
    exact hlong
  rw [pointed, if_neg hexponent]
  dsimp only
  rw [if_pos hafter, List.take_of_length_le hlong]
  set zeros := List.replicate (exponent.toNat + 1 - digits.length) '0' with hzeros
  have hwhole : IsDigits (digits ++ zeros) := by
    refine ⟨List.append_ne_nil_of_left_ne_nil h.isDigits.1 _,
      List.forall_mem_append.mpr ⟨h.isDigits.2, fun c hc => ?_⟩⟩
    rw [List.eq_of_mem_replicate hc]
    rfl
  have hhead : (digits ++ zeros).head? ≠ some '0' := by
    rw [List.head?_append_of_ne_nil _ h.isDigits.1]
    exact h.head_ne
  refine ⟨_, rfl, spellsUnsigned_pointed hwhole (fun heq => absurd heq hhead)
    (isDigits_singleton rfl) negative, .inl rfl, ?_⟩
  have hvalue : Nat.ofDigitChars 10 (digits ++ zeros ++ ['0']) 0 =
      10 * (10 ^ (exponent.toNat + 1 - digits.length) * Nat.ofDigitChars 10 digits 0) := by
    rw [Nat.ofDigitChars_append, Nat.ofDigitChars_append, hzeros,
      Nat.ofDigitChars_replicate_zero]
    rfl
  have hpower : exponent + 1 - (digits.length : ℤ) =
      ((exponent.toNat + 1 - digits.length : ℕ) : ℤ) := by omega
  rw [Writes, magnitude_pointed, hvalue, hpower, zpow_natCast]
  push_cast
  norm_num
  ring

/-- The point stands between the digits. -/
theorem spells_inner (hexponent : ¬ exponent < 0)
    (hlong : ¬ digits.length ≤ exponent.toNat + 1) :
    SpellsDigits (pointed digits exponent) negative digits exponent := by
  have hafter : ¬ (digits.drop (exponent.toNat + 1)).isEmpty = true := by
    rw [List.isEmpty_iff, List.drop_eq_nil_iff]
    exact hlong
  have hzeros : exponent.toNat + 1 - digits.length = 0 := by omega
  rw [pointed, if_neg hexponent]
  dsimp only
  rw [if_neg hafter, hzeros, List.replicate_zero, List.append_nil]
  have hne : digits.take (exponent.toNat + 1) ≠ [] := by
    rw [ne_eq, List.take_eq_nil_iff, not_or]
    exact ⟨Nat.succ_ne_zero _, h.isDigits.1⟩
  have hwhole : IsDigits (digits.take (exponent.toNat + 1)) :=
    ⟨hne, fun c hc => h.isDigits.2 c (List.mem_of_mem_take hc)⟩
  have hhead : (digits.take (exponent.toNat + 1)).head? ≠ some '0' := by
    rw [List.head?_take, if_neg (Nat.succ_ne_zero _)]
    exact h.head_ne
  have hfraction : IsDigits (digits.drop (exponent.toNat + 1)) :=
    ⟨fun hnil => hafter (List.isEmpty_iff.mpr hnil),
      fun c hc => h.isDigits.2 c (List.mem_of_mem_drop hc)⟩
  refine ⟨_, rfl, spellsUnsigned_pointed hwhole (fun heq => absurd heq hhead) hfraction
    negative, .inl rfl, ?_⟩
  rw [Writes, magnitude_pointed, List.take_append_drop, List.length_drop]
  congr 2
  omega

theorem spells_pointed (exponent : ℤ) :
    SpellsDigits (pointed digits exponent) negative digits exponent := by
  by_cases hexponent : exponent < 0
  · exact spells_small h negative hexponent
  · by_cases hlong : digits.length ≤ exponent.toNat + 1
    · exact spells_whole h negative hexponent hlong
    · exact spells_inner h negative hexponent hlong

end Pointed

def exponentSign (exponent : ℤ) : List Char := if exponent < 0 then ['-'] else ['+']

theorem exponentSign_mem (exponent : ℤ) : exponentSign exponent ∈ [[], ['+'], ['-']] := by
  rw [exponentSign]
  split
  · decide
  · decide

theorem scientific_cons (c : Char) (rest : List Char) (exponent : ℤ) :
    scientific (c :: rest) exponent = c :: ((if rest = [] then [] else '.' :: rest) ++
      'e' :: (exponentSign exponent ++ Nat.toDigits 10 exponent.natAbs)) := by
  have hsign : exponentSign exponent = [if exponent < 0 then '-' else '+'] := by
    rw [exponentSign]
    split
    · rfl
    · rfl
  rw [scientific, hsign]
  cases rest with
  | nil => rfl
  | cons d rest => rfl

theorem readExponent_scientific (exponent : ℤ) {rest : List Char} (h : Ends rest) :
    Numeral.readExponent
        ('e' :: (exponentSign exponent ++ (Nat.toDigits 10 exponent.natAbs ++ rest))) =
      some (some (decide (exponent < 0), (Nat.toDigits 10 exponent.natAbs).map digitOf), rest) := by
  have hsign : (exponentSign exponent == ['-']) = decide (exponent < 0) := by
    rw [exponentSign]
    by_cases hneg : exponent < 0
    · rw [if_pos hneg, decide_eq_true hneg]
      rfl
    · rw [if_neg hneg, decide_eq_false hneg]
      rfl
  rw [Numeral.readExponent,
    readSigned_digits (exponentSign_mem exponent) (isDigits_toDigits _) h.noDigit, hsign]
  rfl

theorem shift_scientific (negative : Bool) (whole : List ℕ) (fraction : Option (List ℕ))
    (exponent : ℤ) :
    (⟨negative, whole, fraction,
      some (decide (exponent < 0), (Nat.toDigits 10 exponent.natAbs).map digitOf)⟩ :
        Numeral).shift = exponent := by
  rw [Numeral.shift]
  dsimp only
  rw [digitsValue_map_digitOf, Nat.ofDigitChars_ten_toDigits]
  by_cases hneg : exponent < 0
  · rw [if_pos (decide_eq_true hneg)]
    omega
  · rw [if_neg (by simpa using hneg)]
    omega

theorem spells_scientific {digits : List Char} (h : Leading digits) (negative : Bool)
    (exponent : ℤ) : SpellsDigits (scientific digits exponent) negative digits exponent := by
  obtain ⟨c, rest, rfl⟩ := List.exists_cons_of_ne_nil h.isDigits.1
  have hwhole : IsDigits [c] := isDigits_singleton (h.isDigits.2 c List.mem_cons_self)
  have hzero : [c].head? = some '0' → [c] = ['0'] := fun heq => absurd heq h.head_ne
  rw [scientific_cons]
  by_cases hrest : rest = []
  · subst hrest
    refine ⟨⟨negative, [c].map digitOf, none, some (decide (exponent < 0),
      (Nat.toDigits 10 exponent.natAbs).map digitOf)⟩, rfl, fun tail htail => ?_, .inr rfl, ?_⟩
    · have hfraction : ∀ s, Numeral.readFraction ('e' :: s) = some (none, 'e' :: s) := fun s =>
        Numeral.readFraction.eq_2 _ fun _ h => absurd (List.head_eq_of_cons_eq h) (by decide)
      simp only [if_true, List.nil_append, List.cons_append, List.append_assoc]
      exact readUnsigned_parts hwhole hzero (fun d hd => by cases hd; rfl) (hfraction _)
        (readExponent_scientific exponent htail) negative
    · rw [Writes, Numeral.magnitude, shift_scientific]
      dsimp only [Option.getD_none]
      rw [List.append_nil, digitsValue_map_digitOf, List.length_singleton, List.length_nil]
      congr 2
      push_cast
      ring
  · have hfraction : IsDigits rest :=
      ⟨hrest, fun d hd => h.isDigits.2 d (List.mem_cons_of_mem c hd)⟩
    refine ⟨⟨negative, [c].map digitOf, some (rest.map digitOf), some (decide (exponent < 0),
      (Nat.toDigits 10 exponent.natAbs).map digitOf)⟩, rfl, fun tail htail => ?_, .inr rfl, ?_⟩
    · simp only [if_neg hrest, List.cons_append, List.append_assoc]
      exact readUnsigned_parts hwhole hzero (fun d hd => by cases hd; rfl)
        (readFraction_digits hfraction fun d hd => by cases hd; rfl)
        (readExponent_scientific exponent htail) negative
    · rw [Writes, Numeral.magnitude, shift_scientific, Option.getD_some, ← List.map_append,
        digitsValue_map_digitOf, List.length_map, List.singleton_append, List.length_cons]
      congr 2
      push_cast
      ring

def magnitudeText (d : Double) : List Char :=
  if d.isZero then ['0', '.', '0']
  else
    let digits := Nat.toDigits 10 d.shortest.digits
    let exponent := d.shortest.exponent + digits.length - 1
    if writtenOut exponent then pointed digits exponent else scientific digits exponent

theorem toList_render (d : Double) :
    d.render.toList = if d.negative then '-' :: d.magnitudeText else d.magnitudeText :=
  String.toList_ofList

/-- The size of the decimal that a double is written as. -/
def written (d : Double) : ℚ := if d.isZero then 0 else d.shortest.number

theorem exists_spells_magnitudeText {d : Double} (hd : Rounded d) (negative : Bool) :
    ∃ n : Numeral, n.negative = negative ∧ SpellsUnsigned d.magnitudeText n ∧
      HasPart n ∧ n.magnitude = d.written := by
  rw [magnitudeText, written]
  split
  · have hdigit : IsDigits ['0'] := isDigits_singleton rfl
    refine ⟨_, rfl, spellsUnsigned_pointed hdigit (fun _ => rfl) hdigit negative, .inl rfl, ?_⟩
    rw [magnitude_pointed]
    have hvalue : Nat.ofDigitChars 10 (['0'] ++ ['0']) 0 = 0 := rfl
    rw [hvalue, Nat.cast_zero, zero_mul]
  · next hzero =>
    have hpos : 0 < d.mantissa := by
      rw [isZero, beq_iff_eq] at hzero
      exact Nat.pos_of_ne_zero hzero
    have hleading := leading_toDigits (digits_shortest_pos hd hpos)
    have hnumber : ∀ n : Numeral, Writes n (Nat.toDigits 10 d.shortest.digits)
        (d.shortest.exponent + (Nat.toDigits 10 d.shortest.digits).length - 1) →
        n.magnitude = d.shortest.number := by
      intro n hn
      rw [hn, Nat.ofDigitChars_ten_toDigits, Decimal.number]
      congr 2
      ring
    dsimp only
    split
    · obtain ⟨n, hnegative, hspells, hpart, hwrites⟩ := spells_pointed hleading negative _
      exact ⟨n, hnegative, hspells, hpart, hnumber n hwrites⟩
    · obtain ⟨n, hnegative, hspells, hpart, hwrites⟩ := spells_scientific hleading negative _
      exact ⟨n, hnegative, hspells, hpart, hnumber n hwrites⟩

/-- A double is read off its text as the size of its decimal. -/
theorem exists_spells_render {d : Double} (hd : Rounded d) :
    ∃ n : Numeral, Spells d.render.toList n ∧ HasPart n ∧ n.negative = d.negative ∧
      n.magnitude = d.written := by
  obtain ⟨n, hnegative, hspells, hpart, hmagnitude⟩ := exists_spells_magnitudeText hd d.negative
  refine ⟨n, ?_, hpart, hnegative, hmagnitude⟩
  rw [toList_render, ← hnegative]
  exact hspells.spells

theorem isZero_iff {d : Double} : d.isZero = true ↔ d.mantissa = 0 := beq_iff_eq

theorem written_pos {d : Double} (hd : Rounded d) (hzero : ¬ d.isZero = true) :
    0 < d.mantissa ∧ 0 < d.written := by
  have hpos : 0 < d.mantissa := Nat.pos_of_ne_zero fun h => hzero (isZero_iff.mpr h)
  rw [written, if_neg hzero]
  exact ⟨hpos, (lower_pos hpos).trans_le (roundsTo_shortest hd hpos).between.1⟩

/-- Zero has one exponent. -/
theorem Rounded.exponent_of_isZero {d : Double} (hd : Rounded d) (hzero : d.isZero = true) :
    d.exponent = minExponent := by
  by_contra hne
  have hfull := hd.full (lt_of_le_of_ne hd.minExponent_le (Ne.symm hne))
  rw [isZero_iff.mp hzero] at hfull
  exact absurd hfull (by decide)

/-- A double is known by its sign and the size of its decimal. -/
theorem eq_of_written {d f : Double} (hd : Rounded d) (hf : Rounded f)
    (hsign : d.negative = f.negative) (h : d.written = f.written) : d = f := by
  suffices hsame : d.mantissa = f.mantissa ∧ d.exponent = f.exponent by
    cases d
    cases f
    simp_all
  by_cases hdz : d.isZero = true
  · have hfz : f.isZero = true := by
      by_contra hfz
      have hpos := (written_pos hf hfz).2
      rw [← h, written, if_pos hdz] at hpos
      exact absurd hpos (lt_irrefl 0)
    rw [isZero_iff.mp hdz, isZero_iff.mp hfz, hd.exponent_of_isZero hdz, hf.exponent_of_isZero hfz]
    exact ⟨rfl, rfl⟩
  · have hfz : ¬ f.isZero = true := by
      intro hfz
      have hpos := (written_pos hd hdz).2
      rw [h, written, if_pos hfz] at hpos
      exact absurd hpos (lt_irrefl 0)
    have hround := roundsTo_shortest hd (written_pos hd hdz).1
    rw [written, written, if_neg hdz, if_neg hfz] at h
    rw [h] at hround
    exact eq_of_roundsTo hd hf hround (roundsTo_shortest hf (written_pos hf hfz).1)

/-- Texts of doubles that go on alike are those of one double. -/
theorem render_append_inj {d f : Double} (hd : Rounded d) (hf : Rounded f) {s t : List Char}
    (hs : Ends s) (ht : Ends t) (h : d.render.toList ++ s = f.render.toList ++ t) :
    d = f ∧ s = t := by
  obtain ⟨n, hn, -, hnegative, hmagnitude⟩ := exists_spells_render hd
  obtain ⟨m, hm, -, hnegative', hmagnitude'⟩ := exists_spells_render hf
  have hread := hn s hs
  rw [h, hm t ht] at hread
  obtain ⟨rfl, rfl⟩ := Prod.mk.inj (Option.some.inj hread)
  refine ⟨eq_of_written hd hf ?_ ?_, rfl⟩
  · rw [← hnegative, hnegative']
  · rw [← hmagnitude, hmagnitude']

theorem render_injective {d f : Double} (hd : Rounded d) (hf : Rounded f)
    (h : d.render = f.render) : d = f := by
  have hends : Ends [] := nofun
  exact (render_append_inj hd hf hends hends (by rw [h])).1

/-! The characters of the texts. -/

def IsNumeric (c : Char) : Prop := c.isDigit = true ∨ c ∈ ['.', 'e', '+', '-']

theorem isNumeric_of_mem_toDigits {n : ℕ} {c : Char} (h : c ∈ Nat.toDigits 10 n) : IsNumeric c :=
  .inl ((isDigits_toDigits n).2 c h)

theorem isNumeric_of_mem_pointed {digits : List Char} (hdigits : ∀ c ∈ digits, IsNumeric c)
    {exponent : ℤ} {c : Char} (h : c ∈ pointed digits exponent) : IsNumeric c := by
  have hzero : IsNumeric '0' := .inl rfl
  have hpoint : IsNumeric '.' := .inr (by decide)
  have hzeros : ∀ k, c ∈ List.replicate k '0' → IsNumeric c := fun k hc => by
    rwa [List.eq_of_mem_replicate hc]
  rw [pointed] at h
  split at h
  · rcases List.mem_cons.mp h with rfl | h
    · exact hzero
    · rcases List.mem_cons.mp h with rfl | h
      · exact hpoint
      · exact (List.mem_append.mp h).elim (hzeros _) (hdigits c)
  · rcases List.mem_append.mp h with h | h
    · rcases List.mem_append.mp h with h | h
      · exact hdigits c (List.mem_of_mem_take h)
      · exact hzeros _ h
    · rcases List.mem_cons.mp h with rfl | h
      · exact hpoint
      · split at h
        · rwa [List.mem_singleton.mp h]
        · exact hdigits c (List.mem_of_mem_drop h)

theorem isNumeric_of_mem_scientific {digits : List Char} (hdigits : ∀ c ∈ digits, IsNumeric c)
    {exponent : ℤ} {c : Char} (h : c ∈ scientific digits exponent) : IsNumeric c := by
  rw [scientific] at h
  rcases List.mem_append.mp h with h | h
  · rcases List.mem_append.mp h with h | h
    · exact hdigits c (List.mem_of_mem_take h)
    · split at h
      · cases h
      · rcases List.mem_cons.mp h with rfl | h
        · exact .inr (by decide)
        · exact hdigits c (List.mem_of_mem_drop h)
  · rcases List.mem_cons.mp h with rfl | h
    · exact .inr (by decide)
    · rcases List.mem_cons.mp h with rfl | h
      · split
        · exact .inr (by decide)
        · exact .inr (by decide)
      · exact isNumeric_of_mem_toDigits h

theorem isNumeric_of_mem_render {d : Double} {c : Char} (h : c ∈ d.render.toList) :
    IsNumeric c := by
  have hmagnitude : c ∈ d.magnitudeText → IsNumeric c := by
    intro h
    rw [magnitudeText] at h
    split at h
    · simp only [List.mem_cons, List.not_mem_nil, or_false] at h
      rcases h with rfl | rfl | rfl
      · exact .inl rfl
      · exact .inr (by decide)
      · exact .inl rfl
    · dsimp only at h
      split at h
      · exact isNumeric_of_mem_pointed (fun c => isNumeric_of_mem_toDigits) h
      · exact isNumeric_of_mem_scientific (fun c => isNumeric_of_mem_toDigits) h
  rw [toList_render] at h
  split at h
  · rcases List.mem_cons.mp h with rfl | h
    · exact .inr (by decide)
    · exact hmagnitude h
  · exact hmagnitude h

end ApiForge.Double
