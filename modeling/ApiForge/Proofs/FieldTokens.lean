import ApiForge.Proofs.RespelledItems
import ApiForge.Proofs.LexedLines
import ApiForge.Proofs.ModuleNames

/-!
The tokens of the names in a field. A type that is written with names and brackets has the tokens
that its spelling says, up to the mark behind it (`tokens_typeText`). An identifier in snake case is
one token that can name something, unless it has a character that no token may begin with or go on
with: such a character is a letter or number to the naming and none to the reader of code. Then
nothing that the identifier stands in has tokens (`Name.tokens_snakeIdent`).
-/

namespace ApiForge.Code

open Text

variable {s X : List Char} {c : Char}

/-- The text of a type that is a name, or a name in brackets behind another, and so on, and its
tokens. -/
inductive TypeText : List Char → List Token → Prop
  | name {w : List Char} (hw : isName w = true) : TypeText w [.word w]
  | wrapped {w : List Char} (hw : isName w = true) {s : List Char} {ts : List Token}
      (inner : TypeText s ts) :
      TypeText (w ++ '<' :: (s ++ ['>'])) (.word w :: .mark '<' :: (ts ++ [.mark '>']))

theorem TypeText.spellsType {ts : List Token} (h : TypeText s ts) : SpellsType ts := by
  induction h with
  | name hw => exact .name hw
  | wrapped hw _ ih => exact .wrapped hw ih

/-- The characters that part tokens. -/
def blanks : List Char :=
  ['\t', '\n', '\x0b', '\x0c', '\r', ' ', '\u0085', '\u200e', '\u200f', '\u2028', '\u2029']

theorem isCodeBlank_eq (c : Char) : isCodeBlank c = decide (c ∈ blanks) := rfl

/-- A character of some kind is none of a few of which none is of that kind. -/
theorem notMem_of_all {kind : Char → Bool} {l : List Char}
    (hall : (l.all fun d => !kind d) = true) (h : kind c = true) : c ∉ l := by
  intro hmem
  have hnot := List.all_eq_true.mp hall c hmem
  rw [h] at hnot
  cases hnot

theorem isCodeBlank_of_startsWord (h : startsWord c = true) : isCodeBlank c = false := by
  rw [isCodeBlank_eq, decide_eq_false_iff_not]
  exact notMem_of_all (by decide +kernel) h

theorem continuesIdentifier_of_startsWord (h : startsWord c = true) :
    continuesIdentifier c = true := by
  rw [startsWord, Bool.or_eq_true, beq_iff_eq] at h
  rcases h with rfl | h
  · decide
  · exact continuesIdentifier_of_startsIdentifier h

/-- A character that a word may stand before: it is not the mark of a literal. -/
def standsBehindWord (c : Char) : Bool := c != '"' && c != '\'' && c != '#'

theorem standsBehindWord_of_notMem (h : c ∉ ['"', '\'', '#']) : standsBehindWord c = true := by
  simpa [standsBehindWord, and_assoc] using h

theorem standsBehindWord_of_continues (h : continuesIdentifier c = true) :
    standsBehindWord c = true :=
  standsBehindWord_of_notMem (notMem_of_all (by decide) h)

theorem lexeme_word {next : Char} (rest : List Char) (hc : startsWord c = true)
    (hnext : standsBehindWord next = true) :
    lexeme c (next :: rest) = wordFrom c (next :: rest) := by
  have hslash : startsWord '/' = false := by decide
  have hquotes : startsWord '"' = false ∧ startsWord '\'' = false := by decide
  have hopens : opens c (next :: rest).head? = false := by
    simp only [standsBehindWord, Bool.and_eq_true, bne_iff_ne] at hnext
    rw [opens.eq_def]
    split <;> simp_all
  rw [lexeme_of_not_opens (isCodeBlank_of_startsWord hc) hopens, plainLexeme, if_pos hc]

theorem wordLength_append {w : List Char} (hw : w.all continuesIdentifier = true) {next : Char}
    (hnext : continuesIdentifier next = false) (rest : List Char) :
    wordLength (w ++ next :: rest) = w.length := by
  rw [wordLength, List.takeWhile_append_of_pos (List.all_eq_true.mp hw), List.takeWhile_cons, hnext]
  simp

/-- A word up to a character that does not belong to it. -/
theorem tokens_word {w : List Char} (hw : isWord w = true) {next : Char}
    (hnext : continuesIdentifier next = false) (hbehind : standsBehindWord next = true)
    (rest : List Char) :
    tokens (w ++ next :: rest) = (tokens (next :: rest)).map (.word w :: ·) := by
  rcases w with _ | ⟨c, w⟩
  · cases hw
  rw [isWord, Bool.and_eq_true] at hw
  have hlexeme : lexeme c (w ++ next :: rest) = some ([.word (c :: w)], w.length) := by
    have hword : lexeme c (w ++ next :: rest) = wordFrom c (w ++ next :: rest) := by
      rcases w with _ | ⟨d, w⟩
      · exact lexeme_word rest hw.1 hbehind
      · have hd : continuesIdentifier d = true := List.all_eq_true.mp hw.2 d List.mem_cons_self
        exact lexeme_word _ hw.1 (standsBehindWord_of_continues hd)
    simp only [standsBehindWord, Bool.and_eq_true, bne_iff_ne] at hbehind
    rw [hword, wordFrom, wordLength_append hw.2 hnext]
    simp only [List.drop_left, List.take_left]
    split <;> simp_all
  rw [List.cons_append, tokens_cons hlexeme, List.drop_left]
  rfl

theorem tokens_raw {w : List Char} (hw : isWord w = true) {next : Char}
    (hnext : continuesIdentifier next = false) (rest : List Char) :
    tokens ('r' :: '#' :: (w ++ next :: rest)) = (tokens (next :: rest)).map (.raw w :: ·) := by
  rcases w with _ | ⟨d, w⟩
  · cases hw
  rw [isWord, Bool.and_eq_true] at hw
  have hlexeme : lexeme 'r' ('#' :: (d :: w ++ next :: rest)) =
      some ([.raw (d :: w)], w.length + 2) := by
    rw [List.cons_append, lexeme_raw, if_pos hw.1, wordLength_append hw.2 hnext, List.take_left]
  rw [tokens_cons hlexeme, List.cons_append, List.drop_succ_cons, List.drop_succ_cons,
    List.drop_left]
  rfl

theorem tokens_mark {next : Char} (hnext : next ∈ ['<', '>', ':', ',']) (rest : List Char) :
    tokens (next :: rest) = (tokens rest).map (.mark next :: ·) := by
  have hlexeme : lexeme next rest = some ([.mark next], 0) := by
    simp only [List.mem_cons, List.not_mem_nil, or_false] at hnext
    rcases hnext with rfl | rfl | rfl | rfl <;> rfl
  exact tokens_cons hlexeme

theorem stands_of_mem {next : Char} (hnext : next ∈ ['<', '>', ':', ',']) :
    continuesIdentifier next = false ∧ standsBehindWord next = true := by
  have hall : (['<', '>', ':', ','].all fun c =>
      !continuesIdentifier c && standsBehindWord c) = true := by
    decide
  have hboth := List.all_eq_true.mp hall next hnext
  rwa [Bool.and_eq_true, Bool.not_eq_true'] at hboth

theorem isWord_of_isName {w : List Char} (h : isName w = true) : isWord w = true := by
  rw [isName, Bool.and_eq_true, Bool.and_eq_true] at h
  exact h.1.1

theorem tokens_typeText {s : List Char} {ts : List Token} (h : TypeText s ts) {next : Char}
    (hnext : next ∈ ['>', ',']) (rest : List Char) :
    tokens (s ++ next :: rest) = (tokens (next :: rest)).map (ts ++ ·) := by
  induction h generalizing next rest with
  | name hw =>
    have hmem : next ∈ ['<', '>', ':', ','] := by
      simp only [List.mem_cons, List.not_mem_nil, or_false] at hnext
      rcases hnext with rfl | rfl <;> decide
    exact tokens_word (isWord_of_isName hw) (stands_of_mem hmem).1 (stands_of_mem hmem).2 rest
  | @wrapped w hw s ts inner ih =>
    have hopen : continuesIdentifier '<' = false ∧ standsBehindWord '<' = true :=
      stands_of_mem (by decide)
    rw [List.append_assoc, List.cons_append, List.append_assoc,
      tokens_word (isWord_of_isName hw) hopen.1 hopen.2, tokens_mark (by decide),
      List.singleton_append, ih (by decide), tokens_mark (by decide)]
    cases tokens (next :: rest) with
    | none => rfl
    | some more => simp

/-! Identifiers of fields. -/

/-- A character that identifiers are made with and that no token may begin with. -/
structure Stray (c : Char) : Prop where
  notStarting : startsWord c = false
  notDigit : c.isDigit = false
  notBlank : isCodeBlank c = false
  stem : Name.isStemChar c = true

theorem lexeme_of_stray (h : Stray c) (rest : List Char) : lexeme c rest = none := by
  have hmark : isMark c = false := by
    rw [isMark, decide_eq_false_iff_not]
    exact notMem_of_all (by decide) h.stem
  have hopens : opens c rest.head? = false := by
    have hletters : startsWord 'b' = true ∧ startsWord 'c' = true ∧ startsWord 'r' = true := by
      decide
    have hstarting := h.notStarting
    have hstem := h.stem
    rw [opens.eq_def]
    split
    · cases hstem
    · cases hstem
    · cases hstem
    all_goals simp_all
  rw [lexeme_of_not_opens h.notBlank hopens, plainLexeme, h.notStarting, h.notDigit, hmark]
  rfl

theorem tokens_of_stray (h : Stray c) (rest : List Char) : tokens (c :: rest) = none :=
  tokens_of_lexeme_none (lexeme_of_stray h rest)

theorem exists_first_not (p : Char → Bool) (s : List Char) :
    s.all p = true ∨ ∃ a d b, s = a ++ d :: b ∧ a.all p = true ∧ p d = false := by
  induction s with
  | nil => exact .inl rfl
  | cons c s ih =>
    cases hc : p c with
    | false => exact .inr ⟨[], c, s, rfl, rfl, hc⟩
    | true =>
      rcases ih with hall | ⟨a, d, b, rfl, ha, hd⟩
      · exact .inl (by rw [List.all_cons, hc, hall]; rfl)
      · exact .inr ⟨c :: a, d, b, rfl, by rw [List.all_cons, hc, ha]; rfl, hd⟩

theorem standsBehindWord_of_isStemChar (h : Name.isStemChar c = true) :
    standsBehindWord c = true :=
  standsBehindWord_of_notMem (notMem_of_all (by decide) h)

theorem continuesIdentifier_of_isDigit (h : c.isDigit = true) : continuesIdentifier c = true :=
  Name.continuesIdentifier_of_isPlain (.inl (by rw [isPlain, h, Bool.or_true]))

/-- A text of the characters of identifiers is a word, or it has no tokens. -/
theorem isWord_or_tokens {w : List Char} (hne : w ≠ [])
    (hdigit : ∀ c ∈ w.head?, c.isDigit = false)
    (hstem : ∀ c ∈ w, Name.isStemChar c = true) (hblank : ∀ c ∈ w, isCodeBlank c = false) :
    isWord w = true ∨ ∀ rest, tokens (w ++ rest) = none := by
  obtain ⟨c, w, rfl⟩ := List.exists_cons_of_ne_nil hne
  rw [List.forall_mem_cons] at hstem hblank
  cases hc : startsWord c with
  | false =>
    exact .inr fun rest => tokens_of_stray
      { notStarting := hc, notDigit := hdigit c rfl, notBlank := hblank.1, stem := hstem.1 } _
  | true =>
    rcases exists_first_not continuesIdentifier w with hall | ⟨a, d, b, rfl, ha, hd⟩
    · exact .inl (by rw [isWord, hc, hall]; rfl)
    · have hmem : d ∈ a ++ d :: b := List.mem_append_right a List.mem_cons_self
      have hnot : ∀ {f : Char → Bool}, (f d = true → continuesIdentifier d = true) →
          f d = false := by
        intro f hf
        rw [← Bool.not_eq_true]
        intro h
        rw [hf h] at hd
        cases hd
      have hstray : Stray d :=
        { notStarting := hnot continuesIdentifier_of_startsWord
          notDigit := hnot continuesIdentifier_of_isDigit
          notBlank := hblank.2 d hmem
          stem := hstem.2 d hmem }
      have hword : isWord (c :: a) = true := by rw [isWord, hc, ha]; rfl
      refine .inr fun rest => ?_
      have hsplit : c :: (a ++ d :: b) ++ rest = (c :: a) ++ d :: (b ++ rest) := by simp
      rw [hsplit, tokens_word hword hd (standsBehindWord_of_isStemChar hstray.stem),
        tokens_of_stray hstray]
      rfl

end ApiForge.Code

namespace ApiForge.Name

open Text Code

/-! What parts tokens is in no identifier. -/

/-- The code points of what parts tokens. -/
def blankRuns : List CodeRun :=
  [⟨0x9, 0xD, 1⟩, ⟨0x20, 0x20, 1⟩, ⟨0x85, 0x85, 1⟩, ⟨0x200E, 0x200F, 1⟩, ⟨0x2028, 0x2029, 1⟩]

theorem isCodeBlank_of_not_covers {c : Char} (h : CodeRun.covers blankRuns c.toNat = false) :
    Code.isCodeBlank c = false := by
  rw [isCodeBlank_eq, decide_eq_false_iff_not]
  have hall : (blanks.all fun d => !!CodeRun.covers blankRuns d.toNat) = true := by
    decide
  exact notMem_of_all hall (by rw [h, Bool.not_false])

theorem isCodeBlank_of_isAlphanumeric {c : Char} (h : isAlphanumeric c = true) :
    Code.isCodeBlank c = false := by
  rw [isCodeBlank_eq, decide_eq_false_iff_not]
  exact notMem_of_all (by decide +kernel) h

/-- The small form of a letter or a number does not part tokens. -/
theorem isCodeBlank_of_mem_toLowercase {c d : Char} (hc : isAlphanumeric c = true)
    (hd : d ∈ toLowercase c) : Code.isCodeBlank d = false := by
  have hshifts : toLowerShifts.all (CaseShift.avoids blankRuns) = true := by decide
  have htexts : toLowerTexts.all (fun p => p.2.all fun n => !Code.isCodeBlank (Char.ofNat n)) =
      true := by
    decide
  rw [toLowercase] at hd
  rcases CaseShift.apply_cases toLowerShifts toLowerTexts c with
    hsame | ⟨s, hs, hn, hmoved⟩ | ⟨codes, hmem, htext⟩
  · rw [hsame, List.mem_singleton] at hd
    rw [hd]
    exact isCodeBlank_of_isAlphanumeric hc
  · rw [hmoved, List.mem_singleton] at hd
    rw [hd]
    have hcode := (CaseShift.spec_of_isFaithful (caseTables_faithful.2.2.1 s hs).1 hn).1
    apply isCodeBlank_of_not_covers
    rw [hcode]
    exact CaseShift.not_covers_of_avoids (List.all_eq_true.mp hshifts s hs) hn
  · rw [htext] at hd
    obtain ⟨n, hn, rfl⟩ := List.mem_map.mp hd
    simpa using List.all_eq_true.mp (List.all_eq_true.mp htexts _ hmem) n hn

theorem isCodeBlank_of_mem_snakeCase {s : List Char} {c : Char} (h : c ∈ Text.snakeCase s) :
    Code.isCodeBlank c = false := by
  rcases mem_intercalate h with rfl | ⟨small, hsmall, hc⟩
  · decide
  · obtain ⟨word, hword, rfl⟩ := List.mem_map.mp hsmall
    rcases mem_lowerWord hc with rfl | ⟨d, hd, hc⟩
    · decide
    · exact isCodeBlank_of_mem_toLowercase (isAlphanumeric_of_mem_words hword hd) hc

theorem isInner_of_isStemChar {c : Char} (h : isStemChar c = true) : Code.isInner c = true := by
  rw [isInner, decide_eq_true_eq]
  exact notMem_of_all (by decide) h

/-- A name in snake case that begins with no digit. -/
theorem guardDigit_snakeCase {s : List Char} (h : Text.snakeCase s ≠ []) :
    guardDigit (Text.snakeCase s) ≠ [] ∧ guardDigit (Text.snakeCase s) ≠ ['_'] ∧
      (∀ c ∈ (guardDigit (Text.snakeCase s)).head?, c.isDigit = false) ∧
      ∀ c ∈ guardDigit (Text.snakeCase s), isStemChar c = true ∧ Code.isCodeBlank c = false := by
  have hchars : ∀ c ∈ Text.snakeCase s, isStemChar c = true ∧ Code.isCodeBlank c = false := by
    intro c hc
    have hname : c ∈ (snakeCase (String.ofList s)).toList := by
      rwa [snakeCase, String.toList_ofList, String.toList_ofList]
    exact ⟨isStemChar_of_mem_snakeCase hname, isCodeBlank_of_mem_snakeCase hc⟩
  rcases snakeCase_cases s with ⟨-, hnil⟩ | ⟨_, _, head, rest, -, heq, -, hhead⟩
  · exact absurd hnil h
  rw [heq] at hchars ⊢
  cases hdigit : beginsWithDigit (head :: rest) with
  | true =>
    rw [guardDigit, hdigit, if_pos rfl]
    refine ⟨by simp, by simp, ?_, List.forall_mem_cons.mpr ⟨by decide, hchars⟩⟩
    rintro c ⟨⟩
    rfl
  | false =>
    rw [guardDigit, hdigit]
    refine ⟨by simp, ?_, ?_, hchars⟩
    · rintro hbare
      exact hhead (List.cons.inj hbare).1
    · rintro c ⟨⟩
      exact hdigit

/-- An identifier in snake case is one token that can name something, or it has no tokens. -/
theorem tokens_snakeIdent (name : String) :
    (∃ t : Token, t.isName = true ∧ ∀ rest, tokens ((snakeIdent name).toList ++ ':' :: rest) =
        (tokens (':' :: rest)).map (t :: ·)) ∨
      ∀ rest, tokens ((snakeIdent name).toList ++ rest) = none := by
  have hstands : continuesIdentifier ':' = false ∧ standsBehindWord ':' = true :=
    stands_of_mem (by decide)
  obtain ⟨hcolon, hbehind⟩ := hstands
  have hname : ∀ {w : List Char}, Code.isName w = true → ∃ t : Token, t.isName = true ∧
      ∀ rest, tokens (w ++ ':' :: rest) = (tokens (':' :: rest)).map (t :: ·) := fun hw =>
    ⟨.word _, hw, fun rest => tokens_word (isWord_of_isName hw) hcolon hbehind rest⟩
  rw [snakeIdent_eq]
  split
  · exact .inl (hname (by decide))
  · next hsome =>
    obtain ⟨hne, hbare, hdigit, hchars⟩ := guardDigit_snakeCase hsome
    generalize guardDigit (Text.snakeCase name.toList) = w at hne hbare hdigit hchars ⊢
    by_cases hp : String.ofList w ∈ pathKeywords
    · have hall : ∀ k ∈ pathKeywords, Code.isName (escapeKeyword k).toList = true := by
        decide
      exact .inl (hname (hall _ hp))
    by_cases hr : String.ofList w ∈ rawableKeywords
    · have hall : ∀ k ∈ rawableKeywords, isWord k.toList = true := by decide
      have hword := hall _ hr
      rw [String.toList_ofList] at hword
      rw [escapeKeyword, if_neg (List.contains_iff_mem.not.mpr hp),
        if_pos (List.contains_iff_mem.mpr hr), String.toList_append, String.toList_ofList]
      exact .inl ⟨.raw w, rfl, fun rest => tokens_raw hword hcolon rest⟩
    · rw [escapeKeyword, if_neg (List.contains_iff_mem.not.mpr hp),
        if_neg (List.contains_iff_mem.not.mpr hr), String.toList_ofList]
      refine (isWord_or_tokens hne hdigit (fun c hc => (hchars c hc).1)
        fun c hc => (hchars c hc).2).imp_left fun hword => hname ?_
      have hkeywords : ∀ k ∈ Code.keywords, k ∈ rawableKeywords ++ pathKeywords := by
        decide
      have hkeyword : isKeyword w = false := by
        rw [isKeyword, ← Bool.not_eq_true, List.contains_iff_mem]
        intro hmem
        rcases List.mem_append.mp (hkeywords _ hmem) with hmem | hmem
        · exact hr hmem
        · exact hp hmem
      rw [Code.isName, hword, hkeyword]
      simpa using hbare

end ApiForge.Name
