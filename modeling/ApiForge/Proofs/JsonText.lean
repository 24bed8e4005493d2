import ApiForge.Json.Reader
import Mathlib.Tactic.Common

/-!
The grammar of JSON texts, and how its strings and numbers are read. Numbers beyond the doubles and
escapes of half a surrogate pair are well-formed. Main statements: a string is read up to its
closing quote (`exists_readPieces`) and a number up to where it ends (`exists_readNumeral`), and
what comes of them does not depend on what follows.
-/

namespace ApiForge.Json

def IsBlank (s : List Char) : Prop := ∀ c ∈ s, isSpace c = true

def IsHexDigit (c : Char) : Prop :=
  c.isDigit = true ∨ ('a' ≤ c ∧ c ≤ 'f') ∨ ('A' ≤ c ∧ c ≤ 'F')

inductive IsStringBody : List Char → Prop
  | done : IsStringBody []
  | plain {c : Char} {s : List Char} (hc : 32 ≤ c.toNat) (hquote : c ≠ '"') (hslash : c ≠ '\\')
      (h : IsStringBody s) : IsStringBody (c :: s)
  | escape {c : Char} {s : List Char} (hc : c ∈ ['"', '\\', '/', 'b', 'f', 'n', 'r', 't'])
      (h : IsStringBody s) : IsStringBody ('\\' :: c :: s)
  | unit {a b c d : Char} {s : List Char} (hdigits : ∀ x ∈ [a, b, c, d], IsHexDigit x)
      (h : IsStringBody s) : IsStringBody ('\\' :: 'u' :: a :: b :: c :: d :: s)

def IsDigits (s : List Char) : Prop := s ≠ [] ∧ ∀ c ∈ s, c.isDigit = true

def IsFraction (s : List Char) : Prop := ∃ digits, IsDigits digits ∧ s = '.' :: digits

def IsExponent (s : List Char) : Prop :=
  ∃ letter ∈ ['e', 'E'], ∃ sign ∈ [[], ['+'], ['-']], ∃ digits, IsDigits digits ∧
    s = letter :: (sign ++ digits)

/-- The parts of a number. A leading zero stands alone before the point. -/
inductive IsNumber : List Char → Prop
  | ofParts {sign whole fraction exponent : List Char} (hsign : sign = [] ∨ sign = ['-'])
      (hwhole : IsDigits whole) (hzero : whole.head? = some '0' → whole = ['0'])
      (hfraction : fraction = [] ∨ IsFraction fraction)
      (hexponent : exponent = [] ∨ IsExponent exponent) :
      IsNumber (sign ++ (whole ++ (fraction ++ exponent)))

def IsKey (s : List Char) : Prop :=
  ∃ before body after, IsBlank before ∧ IsStringBody body ∧ IsBlank after ∧
    s = before ++ '"' :: (body ++ '"' :: after)

def joined (parts : List (List Char)) : List Char := [','].intercalate parts

/-- The text of a value that nests at most `n` lists and tables. -/
inductive IsText : Nat → List Char → Prop
  | before {n : Nat} {c : Char} {s : List Char} (hc : isSpace c = true) (h : IsText n s) :
      IsText n (c :: s)
  | after {n : Nat} {c : Char} {s : List Char} (hc : isSpace c = true) (h : IsText n s) :
      IsText n (s ++ [c])
  | word {n : Nat} {s : List Char}
      (h : s ∈ [['n', 'u', 'l', 'l'], ['t', 'r', 'u', 'e'], ['f', 'a', 'l', 's', 'e']]) : IsText n s
  | number {n : Nat} {s : List Char} (h : IsNumber s) : IsText n s
  | string {n : Nat} {s : List Char} (h : IsStringBody s) : IsText n ('"' :: (s ++ ['"']))
  | emptyList {n : Nat} {s : List Char} (h : IsBlank s) : IsText (n + 1) ('[' :: (s ++ [']']))
  | list {n : Nat} {items : List (List Char)} (hne : items ≠ [])
      (h : ∀ item ∈ items, IsText n item) : IsText (n + 1) ('[' :: (joined items ++ [']']))
  | emptyTable {n : Nat} {s : List Char} (h : IsBlank s) :
      IsText (n + 1) ('\x7b' :: (s ++ ['\x7d']))
  | table {n : Nat} {entries : List (List Char × List Char)} (hne : entries ≠ [])
      (hkeys : ∀ e ∈ entries, IsKey e.1) (h : ∀ e ∈ entries, IsText n e.2) :
      IsText (n + 1) ('\x7b' :: (joined (entries.map fun e => e.1 ++ ':' :: e.2) ++ ['\x7d']))

/-- The text of a list, with the texts of its items, which nest at most `n` lists and tables. -/
inductive IsListText (n : Nat) : List Char → List (List Char) → Prop
  | before {c : Char} {s : List Char} {items : List (List Char)} (hc : isSpace c = true)
      (h : IsListText n s items) : IsListText n (c :: s) items
  | after {c : Char} {s : List Char} {items : List (List Char)} (hc : isSpace c = true)
      (h : IsListText n s items) : IsListText n (s ++ [c]) items
  | empty {s : List Char} (h : IsBlank s) : IsListText n ('[' :: (s ++ [']'])) []
  | items {items : List (List Char)} (hne : items ≠ []) (h : ∀ item ∈ items, IsText n item) :
      IsListText n ('[' :: (joined items ++ [']'])) items

theorem IsListText.isText {n : Nat} {s : List Char} {items : List (List Char)}
    (h : IsListText n s items) : IsText (n + 1) s := by
  induction h with
  | before hc _ ih => exact ih.before hc
  | after hc _ ih => exact ih.after hc
  | empty h => exact .emptyList h
  | items hne h => exact .list hne h

/-! Space. -/

theorem skipSpace_cons_of_space {c : Char} (h : isSpace c = true) (s : List Char) :
    skipSpace (c :: s) = skipSpace s :=
  List.dropWhile_cons_of_pos h

theorem skipSpace_cons {c : Char} (h : isSpace c = false) (s : List Char) :
    skipSpace (c :: s) = c :: s :=
  List.dropWhile_cons_of_neg (by rw [h]; exact Bool.false_ne_true)

theorem skipSpace_blank {s : List Char} (h : IsBlank s) (rest : List Char) :
    skipSpace (s ++ rest) = skipSpace rest :=
  List.dropWhile_append_of_pos h

theorem skipSpace_skipSpace (s : List Char) : skipSpace (skipSpace s) = skipSpace s := by
  induction s with
  | nil => rfl
  | cons c s ih =>
    cases h : isSpace c with
    | true => rw [skipSpace_cons_of_space h, ih]
    | false => rw [skipSpace_cons h, skipSpace_cons h]

theorem skipSpace_append {s : List Char} (h : skipSpace s ≠ []) (rest : List Char) :
    skipSpace (s ++ rest) = skipSpace s ++ rest := by
  have hfull : (s.dropWhile isSpace).isEmpty = false := by
    rw [List.isEmpty_eq_false_iff]
    exact h
  rw [skipSpace, List.dropWhile_append, hfull]
  rfl

/-! Strings. -/

theorem exists_digitIn {c : Char} (h : IsHexDigit c) : ∃ n, Text.digitIn 16 c = some n := by
  have hsome : ∀ n : Nat, n < 16 → ∃ m, (some n).filter (· < 16) = some m := fun n hn =>
    ⟨n, by simp [Option.filter, hn]⟩
  rw [Text.digitIn]
  by_cases hdigit : c.isDigit = true
  · have hhigh : c.toNat ≤ 57 := (Char.isDigit_iff_toNat.mp hdigit).2
    rw [if_pos hdigit]
    exact hsome _ (by omega)
  rw [if_neg hdigit]
  rcases h with h | ⟨hlow, hhigh⟩ | ⟨hlow, hhigh⟩
  · exact absurd h hdigit
  · have hz : c ≤ 'z' := Char.le_trans hhigh (by decide)
    have hvalue : c.toNat ≤ 102 := hhigh
    rw [if_pos (by simp [hlow, hz])]
    exact hsome _ (by omega)
  · have hz : c ≤ 'Z' := Char.le_trans hhigh (by decide)
    have hvalue : c.toNat ≤ 70 := hhigh
    have hsmall : ¬ 'a' ≤ c := by
      intro h
      have h : 97 ≤ c.toNat := h
      omega
    rw [if_neg (by simp [hsmall]), if_pos (by simp [hlow, hz])]
    exact hsome _ (by omega)

theorem exists_numberIn {a b c d : Char} (h : ∀ x ∈ [a, b, c, d], IsHexDigit x) :
    ∃ n, Text.numberIn 16 [a, b, c, d] = some n := by
  have hdigit : ∀ x ∈ [a, b, c, d], ∃ n, Text.digitIn 16 x = some n := fun x hx =>
    exists_digitIn (h x hx)
  simp only [List.forall_mem_cons] at hdigit
  obtain ⟨⟨i, hi⟩, ⟨j, hj⟩, ⟨k, hk⟩, ⟨l, hl⟩, -⟩ := hdigit
  simp [Text.numberIn, hi, hj, hk, hl]

theorem exists_readPieces {s : List Char} (h : IsStringBody s) :
    ∃ pieces, ∀ rest, readPieces (s ++ '"' :: rest) = some (pieces, rest) := by
  induction h with
  | done => exact ⟨[], fun rest => rfl⟩
  | @plain c s hc hquote hslash _ ih =>
    obtain ⟨pieces, hpieces⟩ := ih
    refine ⟨.char c :: pieces, fun rest => ?_⟩
    have hplain : ¬ (decide (c.toNat < 32) || c == '\\') = true := by simp [hslash, hc]
    rw [List.cons_append, readPieces, if_neg hplain, hpieces]
    · rfl
    · exact hquote
    · rintro a b c d r rfl
      exact absurd rfl hslash
    · rintro a b rfl
      exact absurd rfl hslash
  | @escape c s hc _ ih =>
    obtain ⟨pieces, hpieces⟩ := ih
    have hescape : ['"', '\\', '/', 'b', 'f', 'n', 'r', 't'].all
        (fun c => c != 'u' && (simpleEscape c).isSome) = true := by decide
    obtain ⟨hunit, hsome⟩ := Bool.and_eq_true_iff.mp (List.all_eq_true.mp hescape c hc)
    obtain ⟨e, he⟩ := Option.isSome_iff_exists.mp hsome
    refine ⟨.char e :: pieces, fun rest => ?_⟩
    rw [List.cons_append, List.cons_append, readPieces, he, hpieces]
    · rfl
    · rintro a b c' d r hu -
      exact bne_iff_ne.mp hunit hu
  | @unit a b c d s hdigits _ ih =>
    obtain ⟨pieces, hpieces⟩ := ih
    obtain ⟨n, hn⟩ := exists_numberIn hdigits
    refine ⟨.ofUnit n :: pieces, fun rest => ?_⟩
    simp only [List.cons_append]
    rw [readPieces, hn, hpieces]
    rfl

/-! Numbers. -/

/-- What may stand after a value: nothing, space, or the sign that a list or table goes on or
closes. -/
def Ends (s : List Char) : Prop := ∀ c ∈ s.head?, isSpace c = true ∨ c ∈ [',', ']', '\x7d']

def NoDigit (s : List Char) : Prop := ∀ c ∈ s.head?, c.isDigit = false

theorem isSpace_iff {c : Char} : isSpace c = true ↔ c ∈ [' ', '\t', '\n', '\r'] := by
  simp [isSpace, or_assoc]

theorem Ends.of_mem_head? {s : List Char} (h : Ends s) {c : Char} (hc : c ∈ s.head?) :
    c.isDigit = false ∧ c ∉ ['.', 'e', 'E'] := by
  have hsigns : ([' ', '\t', '\n', '\r'] ++ [',', ']', '\x7d']).all
      (fun c => !c.isDigit && !(['.', 'e', 'E'].contains c)) = true := by decide
  have hmem := List.mem_append.mpr ((h c hc).imp_left isSpace_iff.mp)
  simpa using List.all_eq_true.mp hsigns c hmem

theorem spanDigits_append {digits rest : List Char} (h : IsDigits digits) (hrest : NoDigit rest) :
    spanDigits (digits ++ rest) = (digits.map digitOf, rest) := by
  have hstop : rest.takeWhile Char.isDigit = [] ∧ rest.dropWhile Char.isDigit = rest := by
    cases rest with
    | nil => exact ⟨rfl, rfl⟩
    | cons c rest =>
      have hc : ¬ c.isDigit = true := by simp [hrest c rfl]
      exact ⟨List.takeWhile_cons_of_neg hc, List.dropWhile_cons_of_neg hc⟩
  rw [spanDigits, List.takeWhile_append_of_pos h.2, List.dropWhile_append_of_pos h.2, hstop.1,
    hstop.2, List.append_nil]

theorem IsDigits.isEmpty_map {digits : List Char} (h : IsDigits digits) :
    (digits.map digitOf).isEmpty = false := by
  simpa using h.1

/-- Digits are not taken for a sign. -/
theorem IsDigits.head_ne {digits rest : List Char} (h : IsDigits digits) {c : Char}
    (hc : c.isDigit = false) (t : List Char) : digits ++ rest ≠ c :: t := by
  intro heq
  cases digits with
  | nil => exact h.1 rfl
  | cons d digits =>
    cases heq
    rw [h.2 c List.mem_cons_self] at hc
    cases hc

theorem readSigned_digits {sign digits rest : List Char} (hsign : sign ∈ [[], ['+'], ['-']])
    (h : IsDigits digits) (hrest : NoDigit rest) :
    Numeral.readSigned (sign ++ (digits ++ rest)) =
      some ((sign == ['-'], digits.map digitOf), rest) := by
  have hread : ∀ negative : Bool,
      (if (spanDigits (digits ++ rest)).1.isEmpty then none
        else some ((negative, (spanDigits (digits ++ rest)).1), (spanDigits (digits ++ rest)).2)) =
        some ((negative, digits.map digitOf), rest) := by
    intro negative
    rw [spanDigits_append h hrest, h.isEmpty_map]
    rfl
  simp only [List.mem_cons, List.not_mem_nil, or_false] at hsign
  rcases hsign with rfl | rfl | rfl
  · rw [List.nil_append, Numeral.readSigned]
    · exact hread false
    · exact h.head_ne (c := '+') (by decide)
    · exact h.head_ne (c := '-') (by decide)
  · exact hread false
  · exact hread true

theorem exists_readExponent {s : List Char} (h : s = [] ∨ IsExponent s) :
    ∃ e, ∀ rest, Ends rest → Numeral.readExponent (s ++ rest) = some (e, rest) := by
  rcases h with rfl | ⟨letter, hletter, sign, hsign, digits, hdigits, rfl⟩
  · refine ⟨none, fun rest hrest => ?_⟩
    rw [List.nil_append, Numeral.readExponent]
    · rintro r rfl
      exact absurd (hrest.of_mem_head? rfl).2 (by decide)
    · rintro r rfl
      exact absurd (hrest.of_mem_head? rfl).2 (by decide)
  · refine ⟨some (sign == ['-'], digits.map digitOf), fun rest hrest => ?_⟩
    have hread := readSigned_digits hsign hdigits fun c hc => (hrest.of_mem_head? hc).1
    simp only [List.mem_cons, List.not_mem_nil, or_false] at hletter
    rw [List.cons_append, List.append_assoc]
    rcases hletter with rfl | rfl
    · rw [Numeral.readExponent, hread]
      rfl
    · rw [Numeral.readExponent, hread]
      rfl

theorem readFraction_digits {digits rest : List Char} (h : IsDigits digits)
    (hrest : NoDigit rest) :
    Numeral.readFraction ('.' :: (digits ++ rest)) = some (some (digits.map digitOf), rest) := by
  rw [Numeral.readFraction, spanDigits_append h hrest]
  dsimp only
  rw [h.isEmpty_map]
  rfl

theorem exists_readFraction {s : List Char} (h : s = [] ∨ IsFraction s) :
    ∃ f, ∀ rest, NoDigit rest → rest.head? ≠ some '.' →
      Numeral.readFraction (s ++ rest) = some (f, rest) := by
  rcases h with rfl | ⟨digits, hdigits, rfl⟩
  · refine ⟨none, fun rest _ hpoint => ?_⟩
    rw [List.nil_append, Numeral.readFraction]
    rintro r rfl
    exact hpoint rfl
  · exact ⟨some (digits.map digitOf), fun rest hrest _ => readFraction_digits hdigits hrest⟩

theorem noDigit_exponent {s rest : List Char} (h : s = [] ∨ IsExponent s) (hrest : Ends rest) :
    NoDigit (s ++ rest) ∧ (s ++ rest).head? ≠ some '.' := by
  rcases h with rfl | ⟨letter, hletter, sign, _, digits, _, rfl⟩
  · refine ⟨fun c hc => (hrest.of_mem_head? hc).1, fun hc => ?_⟩
    exact absurd (hrest.of_mem_head? hc).2 (by decide)
  · obtain ⟨hdigit, hpoint⟩ : letter.isDigit = false ∧ letter ≠ '.' := by
      simp only [List.mem_cons, List.not_mem_nil, or_false] at hletter
      rcases hletter with rfl | rfl
      · decide
      · decide
    refine ⟨fun c hc => ?_, fun hc => hpoint (Option.some.inj hc)⟩
    cases hc
    exact hdigit

theorem noDigit_fraction {s rest : List Char} (h : s = [] ∨ IsFraction s) (hrest : NoDigit rest) :
    NoDigit (s ++ rest) := by
  rcases h with rfl | ⟨digits, _, rfl⟩
  · exact hrest
  · intro c hc
    cases hc
    rfl

def Numeral.readUnsigned (negative : Bool) (s : List Char) : Option (Numeral × List Char) := do
  let (whole, s) := spanDigits s
  if whole.isEmpty || (whole.head? == some 0 && whole.length != 1) then none
  else
    let (fraction, s) ← readFraction s
    let (exponent, s) ← readExponent s
    return (⟨negative, whole, fraction, exponent⟩, s)

theorem Numeral.read?_minus (s : List Char) : read? ('-' :: s) = readUnsigned true s := rfl

theorem Numeral.read?_eq {s : List Char} (h : ∀ t, s ≠ '-' :: t) :
    read? s = readUnsigned false s := by
  rw [read?]
  · rfl
  · exact h

/-- A whole part starts with a zero only when it is nothing else. -/
theorem head?_map_digitOf {whole : List Char} (h : IsDigits whole)
    (hzero : whole.head? = some '0' → whole = ['0']) :
    ((whole.map digitOf).head? == some 0 && (whole.map digitOf).length != 1) = false := by
  cases whole with
  | nil => rfl
  | cons c whole =>
    by_cases hc : c = '0'
    · subst hc
      rw [hzero rfl]
      rfl
    · have hlow : 48 ≤ c.toNat := (Char.isDigit_iff_toNat.mp (h.2 c List.mem_cons_self)).1
      have hne : digitOf c ≠ 0 := by
        intro heq
        have hvalue : c.toNat - 48 = 0 := heq
        exact hc (Char.toNat_inj.mp (by change c.toNat = 48; omega))
      simp [hne]

/-- A number without its sign is read part by part. -/
theorem readUnsigned_parts {whole s rest : List Char} {fraction : Option (List Nat)}
    {exponent : Option (Bool × List Nat)} {t : List Char} (hwhole : IsDigits whole)
    (hzero : whole.head? = some '0' → whole = ['0']) (hs : NoDigit s)
    (hfraction : Numeral.readFraction s = some (fraction, t))
    (hexponent : Numeral.readExponent t = some (exponent, rest)) (negative : Bool) :
    Numeral.readUnsigned negative (whole ++ s) =
      some (⟨negative, whole.map digitOf, fraction, exponent⟩, rest) := by
  rw [Numeral.readUnsigned, spanDigits_append hwhole hs]
  dsimp only
  rw [hwhole.isEmpty_map, head?_map_digitOf hwhole hzero, hfraction]
  change (do
    let (exponent, s) ← Numeral.readExponent t
    return ((⟨negative, whole.map digitOf, fraction, exponent⟩ : Numeral), s)) = _
  rw [hexponent]
  rfl

/-- A number is read up to where it ends. -/
theorem exists_readNumeral {s : List Char} (h : IsNumber s) :
    ∃ n, ∀ rest, Ends rest → Numeral.read? (s ++ rest) = some (n, rest) := by
  obtain @⟨sign, whole, fraction, exponent, hsign, hwhole, hzero, hfraction, hexponent⟩ := h
  obtain ⟨f, hf⟩ := exists_readFraction hfraction
  obtain ⟨e, he⟩ := exists_readExponent hexponent
  have hunsigned : ∀ (negative : Bool) (rest : List Char), Ends rest →
      Numeral.readUnsigned negative (whole ++ (fraction ++ (exponent ++ rest))) =
        some (⟨negative, whole.map digitOf, f, e⟩, rest) := by
    intro negative rest hrest
    obtain ⟨hdigit, hpoint⟩ := noDigit_exponent hexponent hrest
    exact readUnsigned_parts hwhole hzero (noDigit_fraction hfraction hdigit)
      (hf _ hdigit hpoint) (he rest hrest) negative
  rcases hsign with rfl | rfl
  · refine ⟨⟨false, whole.map digitOf, f, e⟩, fun rest hrest => ?_⟩
    rw [List.nil_append, List.append_assoc, List.append_assoc, Numeral.read?_eq]
    · exact hunsigned false rest hrest
    · exact hwhole.head_ne (by decide)
  · refine ⟨⟨true, whole.map digitOf, f, e⟩, fun rest hrest => ?_⟩
    rw [List.append_assoc, List.append_assoc, List.append_assoc, List.singleton_append,
      Numeral.read?_minus]
    exact hunsigned true rest hrest

end ApiForge.Json
