import ApiForge.Text.Literal
import Mathlib.Tactic.Common

/-!
Reading string literals of the generated code. The reader goes character by character and holds
where it stands in an escape; the characters of a text take it from plain text to plain text, each
of them read as itself. Main statement: a literal is read back as its text, whatever comes after it
(`readLiteral?_literalChars`).
-/

namespace ApiForge.Text

/-- Where the reading of a literal stands. -/
inductive LiteralState where
  | plain
  /-- After a backslash. -/
  | escaped
  /-- After the letter of a code point, before its brace. -/
  | opened
  /-- In a code point with `room` for more digits, those so far being the number `n`. -/
  | code (room n : Nat)
  /-- Before the first digit of a byte. -/
  | high
  /-- Before the last digit of a byte. -/
  | low (n : Nat)
  /-- In the blanks after a backslash that ends a line. -/
  | resumed
  deriving DecidableEq

/-- What a character does to the reading of a literal. -/
inductive LiteralStep where
  | done
  | next (read : Option Char) (state : LiteralState)
  | fail

def letterEscapes : List (Char × Char) :=
  [('n', '\n'), ('r', '\r'), ('t', '\t'), ('0', '\x00'), ('\\', '\\'), ('\'', '\''), ('"', '"')]

def hexValue? (c : Char) : Option Nat :=
  if '0' ≤ c ∧ c ≤ '9' then some (c.toNat - '0'.toNat)
  else if 'a' ≤ c ∧ c ≤ 'f' then some (c.toNat - 'a'.toNat + 10)
  else if 'A' ≤ c ∧ c ≤ 'F' then some (c.toNat - 'A'.toNat + 10)
  else none

def maxCodeDigits : Nat := 6

namespace LiteralState

def stepPlain (c : Char) : LiteralStep :=
  if c = '"' then .done else if c = '\\' then .next none .escaped else .next (some c) .plain

def step : LiteralState → Char → LiteralStep
  | .plain, c => stepPlain c
  | .escaped, c =>
    match letterEscapes.lookup c with
    | some d => .next (some d) .plain
    | none =>
      if c = 'u' then .next none .opened
      else if c = 'x' then .next none .high
      else if c = '\n' then .next none .resumed
      else .fail
  | .opened, c => if c = '\x7b' then .next none (.code maxCodeDigits 0) else .fail
  | .code room n, c =>
    if c = '\x7d' then
      if room < maxCodeDigits ∧ n.isValidChar then .next (some (Char.ofNat n)) .plain else .fail
    else
      match room, hexValue? c with
      | room + 1, some d => .next none (.code room (16 * n + d))
      | _, _ => .fail
  | .high, c =>
    match hexValue? c with
    | some d => if d < 8 then .next none (.low d) else .fail
    | none => .fail
  | .low n, c =>
    match hexValue? c with
    | some d => .next (some (Char.ofNat (16 * n + d))) .plain
    | none => .fail
  | .resumed, c => if c ∈ [' ', '\t', '\n', '\r'] then .next none .resumed else stepPlain c

end LiteralState

/-- The text up to the quote that ends a literal, and what follows that quote. -/
def readLiteralFrom (state : LiteralState) : List Char → Option (List Char × List Char)
  | [] => none
  | c :: rest =>
    match state.step c with
    | .done => some ([], rest)
    | .next read state =>
      (readLiteralFrom state rest).map fun (s, after) => (read.toList ++ s, after)
    | .fail => none

/-- The text of the literal that a text begins with, and what follows the literal. -/
def readLiteral? : List Char → Option (List Char × List Char)
  | '"' :: rest => readLiteralFrom .plain rest
  | _ => none

/-! Digits. -/

theorem forall_mem_toDigits {b : Nat} (hb : 1 < b) {P : Char → Prop}
    (h : ∀ d < b, P (Nat.digitChar d)) (n : Nat) : ∀ c ∈ Nat.toDigits b n, P c := by
  induction n using Nat.strongRecOn with
  | ind n ih =>
    by_cases hsmall : n < b
    · rw [Nat.toDigits_of_lt_base hsmall]
      exact List.forall_mem_singleton.mpr (h n hsmall)
    · have hlarge : b ≤ n := Nat.le_of_not_lt hsmall
      rw [Nat.toDigits_of_base_le hb hlarge, List.forall_mem_append]
      refine ⟨ih (n / b) (Nat.div_lt_self (by omega) hb), ?_⟩
      exact List.forall_mem_singleton.mpr (h _ (Nat.mod_lt n (by omega)))

/-- A literal stands on one line. -/
theorem newline_notMem_literalChars (s : List Char) : '\n' ∉ literalChars s := by
  have hchar : ∀ c, '\n' ∉ literalChar c := by
    intro c
    by_cases hfeed : c = '\n'
    · subst hfeed
      decide
    · have hdigits : ∀ d ∈ Nat.toDigits 16 c.toNat, d ≠ '\n' :=
        forall_mem_toDigits (by decide) (by decide) c.toNat
      have hcode : '\n' ∉ Nat.toDigits 16 c.toNat := fun hmem => hdigits _ hmem rfl
      rw [literalChar]
      split_ifs <;> simp [codeEscape, hcode, Ne.symm hfeed]
  rw [literalChars, List.cons_append, List.mem_cons, List.mem_append, List.mem_flatMap]
  simp [hchar]

/-! Steps. -/

theorem readLiteralFrom_next {state after : LiteralState} {c : Char} {read : Option Char}
    (h : state.step c = .next read after) (rest : List Char) :
    readLiteralFrom state (c :: rest) =
      (readLiteralFrom after rest).map fun (s, tail) => (read.toList ++ s, tail) := by
  rw [readLiteralFrom, h]

theorem readLiteralFrom_silent {state after : LiteralState} {c : Char}
    (h : state.step c = .next none after) (rest : List Char) :
    readLiteralFrom state (c :: rest) = readLiteralFrom after rest := by
  rw [readLiteralFrom_next h]
  simp

theorem hexValue?_digitChar {d : Nat} (h : d < 16) : hexValue? (Nat.digitChar d) = some d := by
  have hall : ∀ d < 16, hexValue? (Nat.digitChar d) = some d := by decide
  exact hall d h

theorem digitChar_ne_brace {d : Nat} (h : d < 16) : Nat.digitChar d ≠ '\x7d' := by
  have hall : ∀ d < 16, Nat.digitChar d ≠ '\x7d' := by decide
  exact hall d h

theorem step_code {d : Nat} (h : d < 16) (room n : Nat) :
    LiteralState.step (.code (room + 1) n) (Nat.digitChar d) =
      .next none (.code room (16 * n + d)) := by
  simp [LiteralState.step, digitChar_ne_brace h, hexValue?_digitChar h]

/-- The digits of a code point add up to it. -/
theorem readLiteralFrom_toDigits (n room : Nat) (rest : List Char) :
    readLiteralFrom (.code ((Nat.toDigits 16 n).length + room) 0) (Nat.toDigits 16 n ++ rest) =
      readLiteralFrom (.code room n) rest := by
  induction n using Nat.strongRecOn generalizing room rest with
  | ind n ih =>
    by_cases hsmall : n < 16
    · rw [Nat.toDigits_of_lt_base hsmall, List.length_singleton, Nat.add_comm,
        List.singleton_append, readLiteralFrom_silent (step_code hsmall room 0), Nat.mul_zero,
        Nat.zero_add]
    · -- The last digit comes after those of the quotient, which leave room for it.
      have hlarge : 16 ≤ n := Nat.le_of_not_lt hsmall
      have hdigit : n % 16 < 16 := Nat.mod_lt n (by decide)
      rw [Nat.toDigits_of_base_le (by decide) hlarge, List.length_append, List.length_singleton,
        List.append_assoc, List.singleton_append, Nat.add_assoc, Nat.add_comm 1 room,
        ih (n / 16) (Nat.div_lt_self (by omega) (by decide)) (room + 1),
        readLiteralFrom_silent (step_code hdigit room (n / 16)), Nat.div_add_mod]

theorem length_toDigits_le (c : Char) : (Nat.toDigits 16 c.toNat).length ≤ maxCodeDigits := by
  have hlt : c.toNat < 16 ^ maxCodeDigits := by
    have hvalid := c.valid
    rw [UInt32.isValidChar, Nat.isValidChar] at hvalid
    simp only [maxCodeDigits, Char.toNat]
    omega
  exact (Nat.length_toDigits_le_iff (by decide) (by decide)).mpr hlt

theorem readLiteralFrom_codeEscape (c : Char) (rest : List Char) :
    readLiteralFrom .plain (codeEscape c ++ rest) =
      (readLiteralFrom .plain rest).map fun (s, after) => (c :: s, after) := by
  obtain ⟨room, hroom⟩ := Nat.exists_eq_add_of_le (length_toDigits_le c)
  have hpos : 0 < (Nat.toDigits 16 c.toNat).length :=
    List.length_pos_iff.mpr Nat.toDigits_ne_nil
  have hclose : LiteralState.step (.code room c.toNat) '\x7d' = .next (some c) .plain := by
    have hvalid : c.toNat.isValidChar := c.valid
    have hlt : room < maxCodeDigits := by omega
    simp [LiteralState.step, hlt, hvalid]
  have hopen : LiteralState.step .opened '\x7b' =
      .next none (.code ((Nat.toDigits 16 c.toNat).length + room) 0) := by
    rw [← hroom]
    rfl
  have hescape : LiteralState.step .plain '\\' = .next none .escaped := rfl
  have hletter : LiteralState.step .escaped 'u' = .next none .opened := rfl
  have htext : codeEscape c ++ rest =
      '\\' :: 'u' :: '\x7b' :: (Nat.toDigits 16 c.toNat ++ '\x7d' :: rest) := by
    simp [codeEscape]
  rw [htext, readLiteralFrom_silent hescape, readLiteralFrom_silent hletter,
    readLiteralFrom_silent hopen, readLiteralFrom_toDigits, readLiteralFrom_next hclose]
  rfl

/-- A character of a literal is read as itself. -/
theorem readLiteralFrom_literalChar (c : Char) (rest : List Char) :
    readLiteralFrom .plain (literalChar c ++ rest) =
      (readLiteralFrom .plain rest).map fun (s, after) => (c :: s, after) := by
  have hletter : ∀ {l : Char}, letterEscapes.lookup l = some c →
      readLiteralFrom .plain ('\\' :: l :: rest) =
        (readLiteralFrom .plain rest).map fun (s, after) => (c :: s, after) := by
    intro l hl
    have hescape : LiteralState.step .plain '\\' = .next none .escaped := rfl
    have hstep : LiteralState.step .escaped l = .next (some c) .plain := by
      rw [LiteralState.step, hl]
    rw [readLiteralFrom_silent hescape, readLiteralFrom_next hstep]
    rfl
  rw [literalChar]
  split_ifs with hzero htab hfeed hreturn hquote hslash hhidden
  · exact hletter (by rw [hzero]; rfl)
  · exact hletter (by rw [htab]; rfl)
  · exact hletter (by rw [hfeed]; rfl)
  · exact hletter (by rw [hreturn]; rfl)
  · exact hletter (by rw [hquote]; rfl)
  · exact hletter (by rw [hslash]; rfl)
  · exact readLiteralFrom_codeEscape c rest
  · have hplain : LiteralState.step .plain c = .next (some c) .plain := by
      rw [LiteralState.step, LiteralState.stepPlain, if_neg hquote, if_neg hslash]
    exact readLiteralFrom_next hplain rest

theorem readLiteralFrom_flatMap (s rest : List Char) :
    readLiteralFrom .plain (s.flatMap literalChar ++ '"' :: rest) = some (s, rest) := by
  induction s with
  | nil => rfl
  | cons c s ih =>
    rw [List.flatMap_cons, List.append_assoc, readLiteralFrom_literalChar, ih]
    rfl

/-- A literal is read back as its text. -/
theorem readLiteral?_literalChars (s rest : List Char) :
    readLiteral? (literalChars s ++ rest) = some (s, rest) := by
  rw [literalChars, List.cons_append, List.cons_append, List.append_assoc, List.singleton_append,
    readLiteral?, readLiteralFrom_flatMap]

theorem toList_literal (s : String) : (literal s).toList = literalChars s.toList :=
  String.toList_ofList

end ApiForge.Text
