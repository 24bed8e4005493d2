import ApiForge.Code.Token
import Mathlib.Data.List.Basic

/-!
The tokens of a text up to the end of a line. A lexeme that begins before a line break ends before
it or with it, whatever is behind, unless it is a comment or a literal that is not finished there.
Such a one goes on over the text behind the line, character by character, and of those that mean
nothing in it, it only counts how many there are. Main statement: up to a line break a text either
has tokens of its own, or what is left of its last lexeme goes over the text behind
(`tokens_lines`).
-/

namespace ApiForge.Code

open Text

variable {s X : List Char} {c : Char} {l : Nat}

/-- Whether a character means nothing in a comment or a literal. -/
def isInner (c : Char) : Bool := c ∉ ['*', '/', '\\', '"', '\'']

/-- What goes over a text that means nothing in a comment or a literal. -/
def PassesOver (skip : List Char → Option Nat) : Prop :=
  ∀ l X, (∀ c ∈ l, isInner c = true) → skip (l ++ X) = (skip X).map (l.length + ·)

/-- What ends within the next `l` characters, or goes over what is behind them. -/
def Settles (l : Nat) (f : List Char → Option Nat) : Prop :=
  (∃ n < l, ∀ X, f X = some n) ∨ ∃ skip, PassesOver skip ∧ ∀ X, f X = (skip X).map (l + ·)

theorem PassesOver.of_step {skip : List Char → Option Nat}
    (h : ∀ c X, isInner c = true → skip (c :: X) = (skip X).map (· + 1)) : PassesOver skip := by
  intro l X hl
  induction l with
  | nil => simp
  | cons c l ih =>
    rw [List.forall_mem_cons] at hl
    rw [List.cons_append, h c _ hl.1, ih hl.2, Option.map_map, List.length_cons]
    congr 1
    funext n
    simp only [Function.comp_apply]
    omega

theorem commentLength_cons {d : Nat} (hc : isInner c = true) (X : List Char) :
    commentLength d (c :: X) = (commentLength d X).map (· + 1) := by
  rw [commentLength]
  · rintro rest rfl
    cases hc
  · rintro rest rfl
    cases hc

theorem quotedLength_cons {q : Char} (hq : isInner q = false) (hc : isInner c = true)
    (X : List Char) :
    quotedLength q (c :: X) = (quotedLength q X).map (· + 1) := by
  have hne : c ≠ q := by
    rintro rfl
    rw [hc] at hq
    cases hq
  rw [quotedLength, if_neg hne]
  rintro _ _ rfl
  cases hc

theorem rawLength_cons {h : Nat} (hc : isInner c = true) (X : List Char) :
    rawLength h (c :: X) = (rawLength h X).map (· + 1) := by
  have hne : c ≠ '"' := by
    rintro rfl
    cases hc
  rw [rawLength, if_neg]
  simp [hne]

theorem passesOver_commentLength (d : Nat) : PassesOver (commentLength d) :=
  .of_step fun _ X hc => commentLength_cons hc X

theorem passesOver_quotedLength {q : Char} (hq : isInner q = false) : PassesOver (quotedLength q) :=
  .of_step fun _ X hc => quotedLength_cons hq hc X

theorem passesOver_rawLength (h : Nat) : PassesOver (rawLength h) :=
  .of_step fun _ X hc => rawLength_cons hc X

namespace Settles

variable {f g : List Char → Option Nat}

theorem of_eq {n : Nat} (hn : n < l) (h : ∀ X, f X = some n) : Settles l f := .inl ⟨n, hn, h⟩

theorem of_none (h : ∀ X, f X = none) : Settles l f :=
  .inr ⟨fun _ => none, fun _ _ _ => rfl, h⟩

theorem add (h : Settles l f) (k : Nat) (hg : ∀ X, g X = (f X).map (· + k)) :
    Settles (l + k) g := by
  rcases h with ⟨n, hn, hf⟩ | ⟨skip, hskip, hf⟩
  · refine .inl ⟨n + k, by omega, fun X => ?_⟩
    rw [hg, hf]
    rfl
  · refine .inr ⟨skip, hskip, fun X => ?_⟩
    rw [hg, hf, Option.map_map]
    congr 1
    funext n
    simp only [Function.comp_apply]
    omega

/-- What goes on over the end of the line. -/
theorem of_passesOver {skip : List Char → Option Nat} (h : PassesOver skip)
    (hf : ∀ X, f X = skip ('\n' :: X)) : Settles 1 f := by
  refine .inr ⟨skip, h, fun X => ?_⟩
  rw [hf]
  exact h ['\n'] X fun c hc => by rw [List.mem_singleton.mp hc]; rfl

end Settles

theorem settles_commentLength (d : Nat) (s : List Char) :
    Settles (s.length + 1) fun X => commentLength d (s ++ '\n' :: X) := by
  induction d, s using commentLength.induct with
  | case1 d => exact .of_passesOver (passesOver_commentLength d) fun _ => rfl
  | case2 rest => exact .of_eq (n := 2) (by simp) fun _ => rfl
  | case3 rest d ih => exact ih.add 2 fun _ => rfl
  | case4 d rest ih => exact ih.add 2 fun _ => rfl
  | case5 d c rest hcloses hopens ih =>
    refine ih.add 1 fun X => ?_
    rw [List.cons_append, commentLength]
    · rintro more rfl hmore
      rcases rest with _ | ⟨e, rest⟩
      · cases hmore
      · obtain ⟨rfl, -⟩ := List.cons.inj hmore
        exact hcloses rest rfl rfl
    · rintro more rfl hmore
      rcases rest with _ | ⟨e, rest⟩
      · cases hmore
      · obtain ⟨rfl, -⟩ := List.cons.inj hmore
        exact hopens rest rfl rfl

theorem settles_quotedLength {q : Char} (hq : q ∈ ['"', '\'']) (s : List Char) :
    Settles (s.length + 1) fun X => quotedLength q (s ++ '\n' :: X) := by
  have hpass : PassesOver (quotedLength q) := by
    refine passesOver_quotedLength ?_
    rw [List.mem_cons, List.mem_singleton] at hq
    rcases hq with rfl | rfl <;> rfl
  have hescape : q ≠ '\\' := by
    rintro rfl
    exact absurd hq (by decide)
  induction s using quotedLength.induct q with
  | case1 => exact .of_passesOver hpass fun _ => rfl
  | case2 c rest ih => exact ih.add 2 fun _ => rfl
  | case3 rest =>
    refine .of_eq (n := 1) (by simp) fun X => ?_
    rw [List.cons_append, quotedLength, if_pos rfl]
    exact fun _ _ h => absurd h hescape
  | case4 c rest hrest hne ih =>
    by_cases hc : c = '\\'
    · have hnil : rest = [] := by
        rcases rest with _ | ⟨d, rest⟩
        · rfl
        · exact (hrest d rest hc rfl).elim
      subst hc hnil
      exact .inr ⟨_, hpass, fun X => congrArg (Option.map · _) (funext fun n => Nat.add_comm n 2)⟩
    · refine ih.add 1 fun X => ?_
      rw [List.cons_append, quotedLength, if_neg hne]
      exact fun _ _ h => absurd h hc

/-- A line break is no hash. -/
theorem isPrefixOf_line (h : Nat) (s X : List Char) :
    (List.replicate h '#').isPrefixOf (s ++ '\n' :: X) = (List.replicate h '#').isPrefixOf s := by
  induction h generalizing s with
  | zero => rfl
  | succ h ih =>
    rw [List.replicate_succ]
    cases s with
    | nil => rfl
    | cons c s => rw [List.cons_append, List.isPrefixOf, List.isPrefixOf, ih]

theorem settles_rawLength (h : Nat) (s : List Char) :
    Settles (s.length + 1) fun X => rawLength h (s ++ '\n' :: X) := by
  induction s with
  | nil => exact .of_passesOver (passesOver_rawLength h) fun _ => rfl
  | cons c s ih =>
    by_cases hends : (decide (c = '"') && (List.replicate h '#').isPrefixOf s) = true
    · have hprefix : List.replicate h '#' <+: s :=
        List.isPrefixOf_iff_prefix.mp (Bool.and_eq_true_iff.mp hends).2
      have hle : h ≤ s.length := by simpa using hprefix.length_le
      refine .of_eq (n := h + 1) (by simp; omega) fun X => ?_
      rw [List.cons_append, rawLength, isPrefixOf_line, if_pos hends]
    · refine ih.add 1 fun X => ?_
      rw [List.cons_append, rawLength, isPrefixOf_line, if_neg hends]

/-! What ends with the line at the latest. -/

theorem takeWhile_line {p : Char → Bool} (hp : p '\n' = false) (s X : List Char) :
    (s ++ '\n' :: X).takeWhile p = s.takeWhile p := by
  induction s with
  | nil => simp [hp]
  | cons c s ih => rw [List.cons_append, List.takeWhile_cons, List.takeWhile_cons, ih]

theorem drop_line {n : Nat} (h : n ≤ s.length) (X : List Char) :
    (s ++ '\n' :: X).drop n = s.drop n ++ '\n' :: X := List.drop_append_of_le_length h

theorem length_takeWhile_le (p : Char → Bool) (s : List Char) :
    (s.takeWhile p).length ≤ s.length :=
  (List.takeWhile_sublist p).length_le

theorem wordLength_line (s X : List Char) : wordLength (s ++ '\n' :: X) = wordLength s := by
  rw [wordLength, wordLength, takeWhile_line (by decide)]

theorem wordLength_le (s : List Char) : wordLength s ≤ s.length := length_takeWhile_le _ s

theorem suffixLength_line (s X : List Char) : suffixLength (s ++ '\n' :: X) = suffixLength s := by
  have hbreak : startsWord '\n' = false := by decide
  cases s with
  | nil => simp [suffixLength, hbreak]
  | cons c s => rw [List.cons_append, suffixLength, suffixLength, wordLength_line]

theorem suffixLength_le (s : List Char) : suffixLength s ≤ s.length := by
  cases s with
  | nil => exact Nat.le_refl 0
  | cons c s =>
    rw [suffixLength]
    split
    · exact Nat.succ_le_succ (wordLength_le s)
    · exact Nat.zero_le _

/-- What is told by a line alone: nothing behind its end matters. -/
def EndsInLine (f : List Char → Option Nat) : Prop :=
  ∀ s, (∀ X, f (s ++ '\n' :: X) = f s) ∧ ∀ n, f s = some n → n ≤ s.length

theorem endsInLine_digitsLength? {isDigit : Char → Bool} (h : isDigit '\n' = false) :
    EndsInLine (digitsLength? isDigit) := by
  intro s
  refine ⟨fun X => ?_, fun n hn => ?_⟩
  · rw [digitsLength?, digitsLength?, takeWhile_line (by simp [h])]
  · rw [digitsLength?] at hn
    split at hn
    · cases hn
      exact length_takeWhile_le _ s
    · cases hn

/-- What is told behind a mark. -/
theorem EndsInLine.behind {f : List Char → Option Nat} (h : EndsInLine f) (s : List Char)
    (k : Nat) :
    (∀ X, (f (s ++ '\n' :: X)).map (· + k) = (f s).map (· + k)) ∧
      ∀ n, (f s).map (· + k) = some n → n ≤ s.length + k := by
  refine ⟨fun X => by rw [(h s).1], fun n hn => ?_⟩
  obtain ⟨m, hm, rfl⟩ := Option.map_eq_some_iff.mp hn
  exact Nat.add_le_add_right ((h s).2 m hm) k

theorem endsInLine_exponentLength? : EndsInLine exponentLength? := by
  have hdigits : EndsInLine (digitsLength? Char.isDigit) := endsInLine_digitsLength? rfl
  intro s
  rcases s with _ | ⟨c, s⟩
  · exact ⟨fun _ => rfl, fun n hn => by cases hn⟩
  · by_cases hplus : c = '+'
    · subst hplus
      exact hdigits.behind s 1
    · by_cases hminus : c = '-'
      · subst hminus
        exact hdigits.behind s 1
      · have hother : ∀ t, exponentLength? (c :: t) = digitsLength? Char.isDigit (c :: t) := by
          intro t
          rw [exponentLength?.eq_def]
          split <;> simp_all
        simp only [List.cons_append, hother]
        exact hdigits (c :: s)

/-- How many characters belong to an exponent, if there is one. -/
def exponentPart? : List Char → Option Nat
  | 'e' :: rest => (exponentLength? rest).map (· + 1)
  | 'E' :: rest => (exponentLength? rest).map (· + 1)
  | _ => some 0

theorem endsInLine_exponentPart? : EndsInLine exponentPart? := by
  intro s
  rcases s with _ | ⟨c, s⟩
  · exact ⟨fun _ => rfl, fun n hn => by cases hn; exact Nat.le_refl _⟩
  · by_cases hsmall : c = 'e'
    · subst hsmall
      exact endsInLine_exponentLength?.behind s 1
    · by_cases hlarge : c = 'E'
      · subst hlarge
        exact endsInLine_exponentLength?.behind s 1
      · have hother : ∀ t, exponentPart? (c :: t) = some 0 := by
          intro t
          rw [exponentPart?.eq_def]
          split <;> simp_all
        simp only [List.cons_append, hother]
        exact ⟨fun _ => trivial, fun n hn => by cases hn; exact Nat.zero_le _⟩

/-- What is told behind digits. -/
theorem EndsInLine.behindDigits {f : List Char → Option Nat} (h : EndsInLine f) {p : Char → Bool}
    (hp : p '\n' = false) :
    EndsInLine fun s => (f (s.drop (s.takeWhile p).length)).map (· + (s.takeWhile p).length) := by
  intro s
  have hle := length_takeWhile_le p s
  obtain ⟨hline, hbound⟩ := h (s.drop (s.takeWhile p).length)
  refine ⟨fun X => ?_, fun n hn => ?_⟩
  · simp only [takeWhile_line hp, drop_line hle, hline]
  · obtain ⟨m, hm, rfl⟩ := Option.map_eq_some_iff.mp hn
    have hshort := hbound m hm
    rw [List.length_drop] at hshort
    omega

/-- Whether a character may stand among the digits of a number. -/
def isDigitOrBlank (c : Char) : Bool := c == '_' || c.isDigit

theorem fractionLength?_point (c : Char) (s : List Char) :
    fractionLength? ('.' :: c :: s) =
      if c == '.' || startsWord c then some 0
      else if !c.isDigit then some 1
      else ((exponentPart? ((c :: s).drop ((c :: s).takeWhile isDigitOrBlank).length)).map
        (· + ((c :: s).takeWhile isDigitOrBlank).length)).map (· + 1) := by
  have hadd : ∀ (o : Option Nat) (digits : Nat), o.map (· + digits + 2) =
      ((o.map (· + 1)).map (· + digits)).map (· + 1) := by
    intro o digits
    cases o with
    | none => rfl
    | some n => exact congrArg some (by dsimp only; omega)
  rw [fractionLength?]
  refine if_congr Iff.rfl rfl (if_congr Iff.rfl rfl ?_)
  rw [show ((c :: s).takeWhile fun c => c == '_' || c.isDigit) =
    (c :: s).takeWhile isDigitOrBlank from rfl]
  generalize ((c :: s).takeWhile isDigitOrBlank).length = digits
  generalize (c :: s).drop digits = rest
  split
  · exact hadd _ digits
  · exact hadd _ digits
  · next he hE =>
    have hnone : exponentPart? rest = some 0 := by
      rw [exponentPart?.eq_def]
      split <;> simp_all
    rw [hnone]
    simp

theorem endsInLine_fractionLength? : EndsInLine fractionLength? := by
  intro s
  rcases s with _ | ⟨c, s⟩
  · exact ⟨fun _ => rfl, fun n hn => by cases hn; exact Nat.le_refl _⟩
  · by_cases hpoint : c = '.'
    · subst hpoint
      rcases s with _ | ⟨d, s⟩
      · refine ⟨fun X => ?_, fun n hn => by cases hn; exact Nat.le_refl _⟩
        have hbreak : ('\n' == '.' || startsWord '\n') = false := by decide
        rw [List.cons_append, List.nil_append, fractionLength?_point, hbreak]
        rfl
      · have hdigits := (endsInLine_exponentPart?.behindDigits
          (p := isDigitOrBlank) rfl).behind (d :: s) 1
        have hpoint : ∀ t, fractionLength? ('.' :: d :: t) =
          if d == '.' || startsWord d then some 0 else if !d.isDigit then some 1 else _ :=
            fractionLength?_point d
        simp only [List.cons_append, hpoint]
        split
        · exact ⟨fun _ => rfl, fun n hn => by cases hn; exact Nat.zero_le _⟩
        · split
          · exact ⟨fun _ => rfl, fun n hn => by cases hn; simp⟩
          · exact hdigits
    · have hother : ∀ t, fractionLength? (c :: t) = exponentPart? (c :: t) := by
        intro t
        rw [fractionLength?.eq_def, exponentPart?.eq_def]
        split <;> simp_all
      simp only [List.cons_append, hother]
      exact endsInLine_exponentPart? (c :: s)

theorem endsInLine_numberLength? (first : Char) : EndsInLine (numberLength? first) := by
  have hhex : EndsInLine (digitsLength? isHexDigit) := endsInLine_digitsLength? rfl
  have hdigits : EndsInLine (digitsLength? Char.isDigit) := endsInLine_digitsLength? rfl
  have hwhole := endsInLine_fractionLength?.behindDigits (p := isDigitOrBlank) rfl
  intro s
  by_cases hbase : first = '0' ∧ ∃ c ∈ s.head?, c ∈ ['b', 'o', 'x']
  · obtain ⟨rfl, c, hc, hmem⟩ := hbase
    obtain ⟨rest, rfl⟩ : ∃ rest, s = c :: rest := by
      cases s with
      | nil => cases hc
      | cons d rest => exact ⟨rest, by rw [Option.some.inj hc]⟩
    simp only [List.mem_cons, List.not_mem_nil, or_false] at hmem
    rcases hmem with rfl | rfl | rfl
    · exact hdigits.behind rest 1
    · exact hdigits.behind rest 1
    · exact hhex.behind rest 1
  · have hother : ∀ t, t.head? = s.head? ∨ (s = [] ∧ t.head? = some '\n') →
        numberLength? first t =
          (fractionLength? (t.drop (t.takeWhile isDigitOrBlank).length)).map
            (· + (t.takeWhile isDigitOrBlank).length) := by
      intro t ht
      rw [numberLength?.eq_def]
      split
      case h_4 => rfl
      all_goals
        refine (hbase ⟨rfl, ?_⟩).elim
        rcases ht with ht | ⟨-, ht⟩
        · rw [← ht]
          exact ⟨_, rfl, by decide⟩
        · cases ht
    have hhead : ∀ X, (s ++ '\n' :: X).head? = s.head? ∨
        s = [] ∧ (s ++ '\n' :: X).head? = some '\n' := by
      intro X
      cases s with
      | nil => exact .inr ⟨rfl, rfl⟩
      | cons c s => exact .inl rfl
    refine ⟨fun X => ?_, ?_⟩
    · rw [hother _ (hhead X), hother s (.inl rfl)]
      exact (hwhole s).1 X
    · rw [hother s (.inl rfl)]
      exact (hwhole s).2

theorem drop_behind (s X : List Char) (n : Nat) :
    (s ++ '\n' :: X).drop (s.length + 1 + n) = X.drop n := by
  rw [Nat.add_assoc, List.drop_length_add_append, Nat.add_comm 1, List.drop_succ_cons]

/-! Lexemes. -/

/-- A lexeme that ends within the next `l` characters, or goes over what is behind them. -/
def Lexes (l : Nat) (f : List Char → Option (List Token × Nat)) : Prop :=
  (∃ found n, n < l ∧ ∀ X, f X = some (found, n)) ∨
    ∃ found skip, PassesOver skip ∧ ∀ X, f X = (skip X).map fun n => (found, l + n)

namespace Lexes

variable {f : List Char → Option (List Token × Nat)}

theorem of_eq (found : List Token) {n : Nat} (hn : n < l) (h : ∀ X, f X = some (found, n)) :
    Lexes l f := .inl ⟨found, n, hn, h⟩

theorem of_none (h : ∀ X, f X = none) : Lexes l f :=
  .inr ⟨[], fun _ => none, fun _ _ _ => rfl, h⟩

theorem of_settles {g : List Char → Option Nat} (h : Settles l g)
    (hf : ∀ X, f X = (g X).map fun n => ([], n)) : Lexes l f := by
  rcases h with ⟨n, hn, hg⟩ | ⟨skip, hskip, hg⟩
  · exact of_eq [] hn fun X => by rw [hf, hg]; rfl
  · exact .inr ⟨[], skip, hskip, fun X => by rw [hf, hg, Option.map_map]; rfl⟩

/-- The ending of a literal that goes over a text stands behind the text. -/
theorem passesOver_suffix {skip : List Char → Option Nat} (h : PassesOver skip) :
    PassesOver fun X => (skip X).map fun n => n + suffixLength (X.drop n) := by
  intro l X hl
  dsimp only
  rw [h l X hl, Option.map_map, Option.map_map]
  congr 1
  funext n
  rw [Function.comp_apply, Function.comp_apply, List.drop_length_add_append, Nat.add_assoc]

theorem of_literal {g : List Char → Option Nat} (h : Settles (s.length + 1) g)
    (hf : ∀ X, f X = (g X).map (literalOf (s ++ '\n' :: X))) : Lexes (s.length + 1) f := by
  rcases h with ⟨n, hn, hg⟩ | ⟨skip, hskip, hg⟩
  · have hle := suffixLength_le (s.drop n)
    rw [List.length_drop] at hle
    refine of_eq [.literal] (n := n + suffixLength (s.drop n)) (by omega) fun X => ?_
    rw [hf, hg, Option.map_some, literalOf, drop_line (by omega), suffixLength_line]
  · refine .inr ⟨[.literal], _, passesOver_suffix hskip, fun X => ?_⟩
    rw [hf, hg, Option.map_map, Option.map_map]
    congr 1
    funext n
    rw [Function.comp_apply, Function.comp_apply, literalOf, Nat.add_assoc, drop_behind]

end Lexes

/-- How many characters belong to a raw string behind its hashes, the hashes among them. -/
def quotedRaw? (hashes : Nat) : List Char → Option Nat
  | [] => none
  | c :: rest => if c = '"' then (rawLength hashes rest).map (· + hashes + 1) else none

theorem rawStringLength?_eq (s : List Char) :
    rawStringLength? s =
      quotedRaw? (s.takeWhile (· == '#')).length (s.drop (s.takeWhile (· == '#')).length) := by
  rw [rawStringLength?]
  generalize s.drop (s.takeWhile (· == '#')).length = rest
  split
  · rw [quotedRaw?, if_pos rfl]
  · next hne =>
    cases rest with
    | nil => rfl
    | cons c rest =>
      rw [quotedRaw?, if_neg]
      rintro rfl
      exact hne rest rfl

theorem settles_rawStringLength? (s : List Char) :
    Settles (s.length + 1) fun X => rawStringLength? (s ++ '\n' :: X) := by
  have hle := length_takeWhile_le (· == '#') s
  have hline : ∀ X, rawStringLength? (s ++ '\n' :: X) =
      quotedRaw? (s.takeWhile (· == '#')).length
        (s.drop (s.takeWhile (· == '#')).length ++ '\n' :: X) := by
    intro X
    rw [rawStringLength?_eq, takeWhile_line rfl, drop_line hle]
  have hlength : s.length = (s.takeWhile (· == '#')).length +
      (s.drop (s.takeWhile (· == '#')).length).length := by
    rw [List.length_drop]
    omega
  generalize (s.takeWhile (· == '#')).length = hashes at hline hlength
  rcases hrest : s.drop hashes with _ | ⟨c, rest⟩
  · exact .of_none fun X => by rw [hline, hrest]; rfl
  · rw [hrest, List.length_cons] at hlength
    by_cases hc : c = '"'
    · subst hc
      rw [show s.length + 1 = rest.length + 1 + (hashes + 1) by omega]
      refine (settles_rawLength hashes rest).add (hashes + 1) fun X => ?_
      rw [hline, hrest]
      rfl
    · exact .of_none fun X => by rw [hline, hrest, List.cons_append, quotedRaw?, if_neg hc]

theorem head?_line (s X : List Char) : (s ++ '\n' :: X).head? = some (s.headD '\n') := by
  cases s <;> rfl

theorem lexes_afterQuote (s : List Char) :
    Lexes (s.length + 1) fun X => afterQuote (s ++ '\n' :: X) := by
  have hquoted := settles_quotedLength (q := '\'') (by decide) s
  rcases s with _ | ⟨c, s⟩
  · have hbreak : (startsWord '\n' || '\n'.isDigit) = false := by decide
    refine .of_literal hquoted fun X => ?_
    rw [List.nil_append, afterQuote, hbreak]
    rfl
  · by_cases hword : ((startsWord c || c.isDigit) && some (s.headD '\n') != some '\'') = true
    · have hle := wordLength_le s
      have hafter : ∀ X, afterQuote (c :: s ++ '\n' :: X) =
          if some ((s.drop (wordLength s)).headD '\n') == some '\'' then
            some (literalOf (c :: s ++ '\n' :: X) (wordLength s + 2))
          else if c.isDigit then none else some ([.lifetime], wordLength s + 1) := by
        intro X
        rw [List.cons_append, afterQuote, head?_line, if_pos hword, wordLength_line]
        dsimp only
        rw [List.drop_succ_cons, drop_line hle, head?_line]
      by_cases hcloses : (some ((s.drop (wordLength s)).headD '\n') == some '\'') = true
      · have hlt : wordLength s < s.length := by
          by_contra h
          rw [List.drop_eq_nil_of_le (by omega)] at hcloses
          cases hcloses
        have hsettles : Settles (s.length + 2) fun _ => some (wordLength s + 2) :=
          .of_eq (Nat.add_lt_add_right hlt 2) fun _ => rfl
        refine .of_literal hsettles fun X => ?_
        rw [hafter, if_pos hcloses]
        rfl
      · by_cases hdigit : c.isDigit = true
        · exact .of_none fun X => by rw [hafter, if_neg hcloses, if_pos hdigit]
        · have hlt : wordLength s + 1 < (c :: s).length + 1 := by
            rw [List.length_cons]
            omega
          exact .of_eq _ hlt fun X => by rw [hafter, if_neg hcloses, if_neg hdigit]
    · refine .of_literal hquoted fun X => ?_
      rw [List.cons_append, afterQuote, head?_line, if_neg hword]

theorem wordFrom_line (c : Char) (s X : List Char) :
    wordFrom c (s ++ '\n' :: X) = wordFrom c s := by
  have hle := wordLength_le s
  rw [wordFrom, wordFrom, wordLength_line, drop_line hle, List.take_append_of_le_length hle]
  rcases s.drop (wordLength s) with _ | ⟨d, rest⟩
  · rfl
  · rw [List.cons_append]
    split <;> simp_all

theorem wordFrom_le {found : List Token} {n : Nat} (h : wordFrom c s = some (found, n)) :
    n ≤ s.length := by
  rw [wordFrom] at h
  split at h <;> cases h
  exact wordLength_le s

/-- Whether the first two characters of a lexeme begin a comment or a literal that is told by its
beginning, or a raw identifier. -/
def opens (c : Char) (next : Option Char) : Bool :=
  match c with
  | '"' => true
  | '\'' => true
  | '/' => next == some '/' || next == some '*'
  | 'b' => next == some '\'' || next == some '"'
  | 'c' => next == some '"'
  | 'r' => next == some '"' || next == some '#'
  | _ => false

/-- A word, a number or a mark. -/
def plainLexeme (c : Char) (rest : List Char) : Option (List Token × Nat) :=
  if startsWord c then wordFrom c rest
  else if c.isDigit then (numberLength? c rest).map (literalOf rest)
  else if isMark c then some ([.mark c], 0)
  else none

theorem lexeme_of_not_opens {rest : List Char} (hblank : isCodeBlank c = false)
    (h : opens c rest.head? = false) : lexeme c rest = plainLexeme c rest := by
  rw [lexeme.eq_def, hblank]
  simp only [Bool.false_eq_true, if_false]
  split
  case h_10 => rfl
  all_goals exact absurd h (by simp [opens])

theorem lexes_plainLexeme (c : Char) (s : List Char) :
    Lexes (s.length + 1) fun X => plainLexeme c (s ++ '\n' :: X) := by
  by_cases hstarts : startsWord c = true
  · have hword : ∀ X, plainLexeme c (s ++ '\n' :: X) = wordFrom c s := fun X => by
      rw [plainLexeme, if_pos hstarts, wordFrom_line]
    rcases h : wordFrom c s with _ | ⟨found, n⟩
    · exact .of_none fun X => by rw [hword, h]
    · exact .of_eq found (Nat.lt_succ_of_le (wordFrom_le h)) fun X => by rw [hword, h]
  by_cases hdigit : c.isDigit = true
  · obtain ⟨hline, hbound⟩ := endsInLine_numberLength? c s
    have hnumber : ∀ X, plainLexeme c (s ++ '\n' :: X) =
        (numberLength? c s).map (literalOf (s ++ '\n' :: X)) := fun X => by
      rw [plainLexeme, if_neg hstarts, if_pos hdigit, hline]
    rcases h : numberLength? c s with _ | n
    · exact .of_none fun X => by rw [hnumber, h]; rfl
    · exact .of_literal (.of_eq (n := n) (Nat.lt_succ_of_le (hbound n h)) fun _ => rfl) fun X => by
        rw [hnumber, h]
  by_cases hmark : isMark c = true
  · exact .of_eq _ (Nat.zero_lt_succ _) fun X => by
      rw [plainLexeme, if_neg hstarts, if_neg hdigit, if_pos hmark]
  · exact .of_none fun X => by
      rw [plainLexeme, if_neg hstarts, if_neg hdigit, if_neg hmark]

theorem lexeme_raw (d : Char) (inner : List Char) :
    lexeme 'r' ('#' :: d :: inner) =
      if startsWord d then some ([.raw (d :: inner.take (wordLength inner))], wordLength inner + 2)
      else (rawStringLength? ('#' :: d :: inner)).map (literalOf ('#' :: d :: inner)) := rfl

theorem exists_cons_of_headD {d : Char} (hd : d ≠ '\n')
    (h : (some (s.headD '\n') == some d) = true) : ∃ rest, s = d :: rest := by
  cases s with
  | nil => exact absurd (Option.some.inj (beq_iff_eq.mp h)).symm hd
  | cons c rest =>
    obtain rfl : c = d := Option.some.inj (beq_iff_eq.mp h)
    exact ⟨rest, rfl⟩

/-! What the beginnings of comments and literals begin. -/

theorem lexes_slash (h : opens '/' (some (s.headD '\n')) = true) :
    Lexes (s.length + 1) fun X => lexeme '/' (s ++ '\n' :: X) := by
  rcases Bool.or_eq_true_iff.mp h with hline | hblock
  · obtain ⟨rest, rfl⟩ := exists_cons_of_headD (by decide) hline
    have hle := length_takeWhile_le (· != '\n') ('/' :: rest)
    refine .of_eq [] (Nat.lt_succ_of_le hle) fun X => ?_
    rw [← takeWhile_line rfl _ X]
    rfl
  · obtain ⟨rest, rfl⟩ := exists_cons_of_headD (by decide) hblock
    exact .of_settles ((settles_commentLength 0 rest).add 1 fun _ => rfl) fun X => by
      rw [Option.map_map]
      rfl

/-- A literal between two marks of one kind, with a letter before the first. -/
theorem lexes_prefixed {q : Char} (hq : q ∈ ['"', '\''])
    (hlexeme : ∀ rest, lexeme c (q :: rest) =
      (quotedLength q rest).map fun n => literalOf (q :: rest) (n + 1))
    (h : (some (s.headD '\n') == some q) = true) :
    Lexes (s.length + 1) fun X => lexeme c (s ++ '\n' :: X) := by
  have hbreak : q ≠ '\n' := by
    rintro rfl
    exact absurd hq (by decide)
  obtain ⟨rest, rfl⟩ := exists_cons_of_headD hbreak h
  refine .of_literal ((settles_quotedLength hq rest).add 1 fun _ => rfl) fun X => ?_
  rw [Option.map_map]
  exact hlexeme _

theorem lexes_raw (h : opens 'r' (some (s.headD '\n')) = true) :
    Lexes (s.length + 1) fun X => lexeme 'r' (s ++ '\n' :: X) := by
  have hraw := settles_rawStringLength? s
  rcases Bool.or_eq_true_iff.mp h with hquote | hhash
  · obtain ⟨rest, rfl⟩ := exists_cons_of_headD (by decide) hquote
    exact .of_literal hraw fun X => rfl
  obtain ⟨rest, rfl⟩ := exists_cons_of_headD (by decide) hhash
  rcases rest with _ | ⟨d, inner⟩
  · have hbreak : ¬ startsWord '\n' = true := by decide
    exact .of_literal hraw fun X => by
      rw [List.cons_append, List.nil_append, lexeme_raw, if_neg hbreak]
  by_cases hd : startsWord d = true
  · have hle := wordLength_le inner
    have hlt : wordLength inner + 2 < ('#' :: d :: inner).length + 1 := by
      rw [List.length_cons, List.length_cons]
      omega
    refine .of_eq [.raw (d :: inner.take (wordLength inner))] hlt fun X => ?_
    rw [List.cons_append, List.cons_append, lexeme_raw, if_pos hd, wordLength_line,
      List.take_append_of_le_length hle]
  · exact .of_literal hraw fun X => by
      rw [List.cons_append, List.cons_append, lexeme_raw, if_neg hd]

theorem lexes_of_opens (h : opens c (some (s.headD '\n')) = true) :
    Lexes (s.length + 1) fun X => lexeme c (s ++ '\n' :: X) := by
  have hsplit := h
  rw [opens.eq_def] at hsplit
  split at hsplit
  · exact .of_literal (settles_quotedLength (by decide) s) fun X => rfl
  · exact lexes_afterQuote s
  · exact lexes_slash h
  · rcases Bool.or_eq_true_iff.mp hsplit with hsingle | hdouble
    · exact lexes_prefixed (by decide) (fun _ => rfl) hsingle
    · exact lexes_prefixed (by decide) (fun _ => rfl) hdouble
  · exact lexes_prefixed (by decide) (fun _ => rfl) hsplit
  · exact lexes_raw h
  · cases hsplit

theorem lexes_lexeme (c : Char) (s : List Char) :
    Lexes (s.length + 1) fun X => lexeme c (s ++ '\n' :: X) := by
  by_cases hblank : isCodeBlank c = true
  · exact .of_eq _ (Nat.zero_lt_succ _) fun X => by rw [lexeme.eq_def, if_pos hblank]
  by_cases hopens : opens c (some (s.headD '\n')) = true
  · exact lexes_of_opens hopens
  · have hplain := lexes_plainLexeme c s
    have heq : ∀ X, lexeme c (s ++ '\n' :: X) = plainLexeme c (s ++ '\n' :: X) := fun X =>
      lexeme_of_not_opens (by simpa using hblank) (by rw [head?_line]; simpa using hopens)
    simpa only [heq] using hplain

theorem tokens_cons {rest : List Char} {found : List Token} {n : Nat}
    (h : lexeme c rest = some (found, n)) :
    tokens (c :: rest) = (tokens (rest.drop n)).map (found ++ ·) := by
  rw [tokens, h]

theorem tokens_of_lexeme_none {rest : List Char} (h : lexeme c rest = none) :
    tokens (c :: rest) = none := by
  rw [tokens, h]

/-- The tokens of lines and of what is behind them. The lines have their own tokens, or the last of
their lexemes goes on behind them. -/
theorem tokens_lines (s : List Char) :
    (∃ found, ∀ X, tokens (s ++ '\n' :: X) = (tokens X).map (found ++ ·)) ∨
      ∃ found skip, PassesOver skip ∧ ∀ X, tokens (s ++ '\n' :: X) =
        (skip X).bind fun n => (tokens (X.drop n)).map (found ++ ·) := by
  induction hl : s.length using Nat.strongRecOn generalizing s with
  | ind l ih =>
  subst hl
  rcases s with _ | ⟨c, s⟩
  · have hbreak : ∀ X, lexeme '\n' X = some ([], 0) := fun _ => rfl
    exact .inl ⟨[], fun X => tokens_cons (hbreak X)⟩
  · rcases lexes_lexeme c s with ⟨found, n, hn, hlexeme⟩ | ⟨found, skip, hskip, hlexeme⟩
    · have hline : ∀ X, tokens (c :: s ++ '\n' :: X) =
          (tokens (s.drop n ++ '\n' :: X)).map (found ++ ·) := by
        intro X
        rw [List.cons_append, tokens_cons (hlexeme X), drop_line (Nat.le_of_lt_succ hn)]
      have hshort : (s.drop n).length < (c :: s).length := by
        rw [List.length_drop, List.length_cons]
        omega
      have happend : ∀ (more : List Token) (o : Option (List Token)),
          (o.map (more ++ ·)).map (found ++ ·) = o.map (found ++ more ++ ·) := by
        intro more o
        cases o <;> simp
      rcases ih _ hshort (s.drop n) rfl with ⟨more, hmore⟩ | ⟨more, skip, hskip, hmore⟩
      · exact .inl ⟨found ++ more, fun X => by rw [hline, hmore, happend]⟩
      · refine .inr ⟨found ++ more, skip, hskip, fun X => ?_⟩
        rw [hline, hmore]
        cases skip X with
        | none => rfl
        | some n => exact happend _ _
    · refine .inr ⟨found, skip, hskip, fun X => ?_⟩
      cases hX : skip X with
      | none => exact tokens_of_lexeme_none ((hlexeme X).trans (by rw [hX]; rfl))
      | some n =>
        have hn : lexeme c (s ++ '\n' :: X) = some (found, s.length + 1 + n) :=
          (hlexeme X).trans (by rw [hX]; rfl)
        rw [List.cons_append, tokens_cons hn, drop_behind]
        rfl

end ApiForge.Code
