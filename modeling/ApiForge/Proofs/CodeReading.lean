import ApiForge.Code.Token
import ApiForge.Proofs.LiteralReading

/-!
Code as one sees it who looks for its texts: words, marks and string literals. The reader goes
character by character and holds where it stands, in a comment, a literal or code, so what it makes
of two pieces in a row is told by the pieces (`readFrom_append`). A piece without line feeds, quotes
and slashes stays in its place wherever it stands in code (`readFrom_inert`), and a literal is read
as its text (`readFrom_literalChars`).
-/

namespace ApiForge.Code

open Text

/-- What code is read as. -/
inductive Lexeme where
  | word (s : List Char)
  | mark (c : Char)
  /-- The text of a string literal. -/
  | text (s : List Char)
  deriving DecidableEq

/-- Where the reading of code stands. What has been read of a word or a text is held last character
first. -/
inductive Spot where
  /-- In code, behind a word unless none of it has been read. -/
  | code (word : List Char)
  /-- In the signs behind a word that may begin a raw text. -/
  | signs (word : List Char) (count : Nat)
  /-- Behind a slash. -/
  | slash
  | lineComment
  /-- In a comment with `depth` more open around it, behind the character `last`. -/
  | blockComment (depth : Nat) (last : Char)
  | text (read : List Char) (state : LiteralState)
  /-- In a text between quotes with `count` signs outside of them. `closing` tells how many of these
  have come behind a quote. -/
  | rawText (count : Nat) (read : List Char) (closing : Option Nat)
  /-- Behind a single quote. -/
  | tick
  /-- Behind a single quote and a character, which is a literal if another quote follows. -/
  | ticked (c : Char)
  /-- In the escape of a character, right behind the backslash or later. -/
  | charEscape (fresh : Bool)
  deriving DecidableEq

def endWord (word : List Char) : List Lexeme := if word.isEmpty then [] else [.word word.reverse]

/-- The words that begin raw texts, last character first. -/
def rawMarks : List (List Char) := [['r'], ['r', 'b'], ['r', 'c']]

/-- What a character in code is read as, behind a word, and where that leads. -/
def codeStep (word : List Char) (c : Char) : List Lexeme × Spot :=
  if continuesIdentifier c then ([], .code (c :: word))
  else if c = '"' then
    if rawMarks.contains word then ([], .rawText 0 [] none) else (endWord word, .text [] .plain)
  else if c = '#' ∧ rawMarks.contains word then ([], .signs word 1)
  else if c = '/' then (endWord word, .slash)
  else if c = '\'' then (endWord word, .tick)
  else if isCodeBlank c then (endWord word, .code [])
  else (endWord word ++ [.mark c], .code [])

def codeStepAfter (found : List Lexeme) (word : List Char) (c : Char) : List Lexeme × Spot :=
  (found ++ (codeStep word c).1, (codeStep word c).2)

/-- What a character in a raw text is read as. A quote without its signs belongs to the text. -/
def rawStep (count : Nat) (read : List Char) (closing : Option Nat) (c : Char) :
    List Lexeme × Spot :=
  let passed := match closing with
    | some signs => List.replicate signs '#' ++ '"' :: read
    | none => read
  let signs := match closing with
    | some signs => if c = '#' then some (signs + 1) else none
    | none => none
  if signs = some count ∨ c = '"' ∧ count = 0 then ([.text read.reverse], .code [])
  else if c = '"' then ([], .rawText count passed (some 0))
  else if signs.isSome then ([], .rawText count read signs)
  else ([], .rawText count (c :: passed) none)

namespace Spot

def step : Spot → Char → Option (List Lexeme × Spot)
  | code word, c => some (codeStep word c)
  | signs word count, c =>
    if c = '#' then some ([], signs word (count + 1))
    else if c = '"' then some ([], rawText count [] none)
    else some (codeStepAfter (endWord word ++ List.replicate count (.mark '#')) [] c)
  | slash, c =>
    if c = '/' then some ([], lineComment)
    else if c = '*' then some ([], blockComment 0 ' ')
    else some (codeStepAfter [.mark '/'] [] c)
  | lineComment, c => some ([], if c = '\n' then code [] else lineComment)
  | blockComment depth last, c =>
    if last = '*' ∧ c = '/' then
      match depth with
      | 0 => some ([], code [])
      | depth + 1 => some ([], blockComment depth ' ')
    else if last = '/' ∧ c = '*' then some ([], blockComment (depth + 1) ' ')
    else some ([], blockComment depth c)
  | text read state, c =>
    match state.step c with
    | .done => some ([.text read.reverse], code [])
    | .next found state => some ([], text (found.toList ++ read) state)
    | .fail => none
  | rawText count read closing, c => some (rawStep count read closing c)
  | tick, c => some ([], if c = '\\' then charEscape true else ticked c)
  | ticked held, c =>
    if c = '\'' then some ([.mark '\''], code [])
    else some (codeStepAfter [.mark '\''] [held] c)
  | charEscape fresh, c =>
    if c = '\'' ∧ fresh = false then some ([.mark '\''], code [])
    else some ([], charEscape false)

/-- What is read at the end of the code, which must not be in a literal or a longer comment. -/
def finish? : Spot → Option (List Lexeme)
  | code word => some (endWord word)
  | signs word count => some (endWord word ++ List.replicate count (.mark '#'))
  | slash => some [.mark '/']
  | lineComment => some []
  | ticked held => some [.mark '\'', .word [held]]
  | _ => none

end Spot

/-- What a piece of code is read as from a place on, and where that leads. -/
def readFrom : Spot → List Char → Option (List Lexeme × Spot)
  | place, [] => some ([], place)
  | place, c :: rest =>
    (place.step c).bind fun (found, next) =>
      (readFrom next rest).map fun (more, last) => (found ++ more, last)

def lexemes? (s : List Char) : Option (List Lexeme) :=
  (readFrom (.code []) s).bind fun (found, last) => last.finish?.map (found ++ ·)

/-! Pieces in a row. -/

section

variable {p q r : Spot} {found more : List Lexeme}

theorem readFrom_cons {c : Char} {rest : List Char} (hc : p.step c = some (found, q))
    (hrest : readFrom q rest = some (more, r)) :
    readFrom p (c :: rest) = some (found ++ more, r) := by
  simp only [readFrom, hc, Option.bind_some, hrest, Option.map_some]

theorem readFrom_append {s t : List Char} (hs : readFrom p s = some (found, q))
    (ht : readFrom q t = some (more, r)) : readFrom p (s ++ t) = some (found ++ more, r) := by
  induction s generalizing p found with
  | nil =>
    obtain ⟨rfl, rfl⟩ := Prod.mk.inj (Option.some.inj hs)
    exact ht
  | cons c s ih =>
    rw [readFrom, Option.bind_eq_some_iff] at hs
    obtain ⟨⟨first, next⟩, hc, hs⟩ := hs
    rw [Option.map_eq_some_iff] at hs
    obtain ⟨⟨later, last⟩, hs, heq⟩ := hs
    obtain ⟨rfl, rfl⟩ := Prod.mk.inj heq
    rw [List.cons_append, readFrom_cons hc (ih hs), List.append_assoc]

end

/-! Code without texts. -/

/-- The characters that end a line or may begin a literal or a comment. -/
def breaks : List Char := ['\n', '"', '\'', '/']

/-- A piece that stays what it is wherever it stands in code. -/
def Inert (s : List Char) : Prop := ∀ c ∈ s, c ∉ breaks

instance : DecidablePred Inert := fun s => List.decidableBAll (· ∉ breaks) s

theorem Inert.append {s t : List Char} (hs : Inert s) (ht : Inert t) : Inert (s ++ t) :=
  List.forall_mem_append.mpr ⟨hs, ht⟩

theorem Inert.newline_notMem {s : List Char} (h : Inert s) : '\n' ∉ s :=
  fun hmem => h '\n' hmem (by decide)

def Spot.IsCalm (p : Spot) : Prop := (∃ word, p = code word) ∨ ∃ word count, p = signs word count

def Silent (found : List Lexeme) : Prop := ∀ l ∈ found, ∀ s, l ≠ .text s

theorem Silent.append {found more : List Lexeme} (h : Silent found) (hmore : Silent more) :
    Silent (found ++ more) :=
  List.forall_mem_append.mpr ⟨h, hmore⟩

theorem silent_endWord (word : List Char) : Silent (endWord word) := by
  rw [endWord]
  split
  · exact nofun
  · exact List.forall_mem_singleton.mpr fun _ => nofun

theorem codeStep_of_notMem_breaks (word : List Char) {c : Char} (hc : c ∉ breaks) :
    Silent (codeStep word c).1 ∧ (codeStep word c).2.IsCalm := by
  simp only [breaks, List.mem_cons, List.not_mem_nil, or_false, not_or] at hc
  obtain ⟨-, hquote, htick, hslash⟩ := hc
  have hmark : Silent [.mark c] := List.forall_mem_singleton.mpr fun _ => nofun
  rw [codeStep, if_neg hquote, if_neg hslash, if_neg htick]
  split_ifs
  · exact ⟨nofun, .inl ⟨_, rfl⟩⟩
  · exact ⟨nofun, .inr ⟨_, _, rfl⟩⟩
  · exact ⟨silent_endWord word, .inl ⟨_, rfl⟩⟩
  · exact ⟨(silent_endWord word).append hmark, .inl ⟨_, rfl⟩⟩

theorem codeStep_newline (word : List Char) : codeStep word '\n' = (endWord word, .code []) := by
  have hpart : continuesIdentifier '\n' = false := by decide
  have hblank : isCodeBlank '\n' = true := by decide
  simp [codeStep, hpart, hblank]

theorem silent_signs (word : List Char) (count : Nat) :
    Silent (endWord word ++ List.replicate count (.mark '#')) := by
  refine (silent_endWord word).append fun l hl => ?_
  rw [(List.mem_replicate.mp hl).2]
  exact fun _ => nofun

/-- What does not break code is read as no text, and code goes on. -/
theorem Spot.IsCalm.step {p : Spot} (hp : p.IsCalm) {c : Char} (hc : c ∉ breaks) :
    ∃ found q, p.step c = some (found, q) ∧ Silent found ∧ q.IsCalm := by
  rcases hp with ⟨word, rfl⟩ | ⟨word, count, rfl⟩
  · obtain ⟨hsilent, hcalm⟩ := codeStep_of_notMem_breaks word hc
    exact ⟨_, _, rfl, hsilent, hcalm⟩
  · obtain ⟨hsilent, hcalm⟩ := codeStep_of_notMem_breaks [] hc
    have hquote : c ≠ '"' := by
      rintro rfl
      exact hc (by decide)
    rw [Spot.step, if_neg hquote]
    split_ifs
    · exact ⟨_, _, rfl, nofun, .inr ⟨_, _, rfl⟩⟩
    · exact ⟨_, _, rfl, (silent_signs word count).append hsilent, hcalm⟩

/-- A line feed ends what stands before it in code. -/
theorem Spot.IsCalm.step_newline {p : Spot} (hp : p.IsCalm) :
    ∃ found, p.step '\n' = some (found, .code []) ∧ Silent found := by
  rcases hp with ⟨word, rfl⟩ | ⟨word, count, rfl⟩
  · exact ⟨_, congrArg some (codeStep_newline word), silent_endWord word⟩
  · refine ⟨endWord word ++ List.replicate count (.mark '#') ++ [], ?_, ?_⟩
    · rw [Spot.step, if_neg (by decide), if_neg (by decide), codeStepAfter, codeStep_newline]
      rfl
    · rw [List.append_nil]
      exact silent_signs word count

/-- Code that does not break is read as no text. -/
theorem readFrom_inert {p : Spot} (hp : p.IsCalm) {s : List Char} (hs : Inert s) :
    ∃ found q, readFrom p s = some (found, q) ∧ Silent found ∧ q.IsCalm := by
  induction s generalizing p with
  | nil => exact ⟨[], p, rfl, nofun, hp⟩
  | cons c s ih =>
    obtain ⟨hc, hs⟩ := List.forall_mem_cons.mp hs
    obtain ⟨found, q, hstep, hfound, hq⟩ := hp.step hc
    obtain ⟨more, r, hread, hmore, hr⟩ := ih hq hs
    exact ⟨_, r, readFrom_cons hstep hread, hfound.append hmore, hr⟩

/-- A line of such code leads to the beginning of the next line. -/
theorem readFrom_inert_line {s : List Char} (hs : Inert s) :
    ∃ found, readFrom (.code []) (s ++ ['\n']) = some (found, .code []) ∧ Silent found := by
  obtain ⟨found, q, hread, hfound, hq⟩ := readFrom_inert (.inl ⟨[], rfl⟩) hs
  obtain ⟨more, hstep, hmore⟩ := hq.step_newline
  refine ⟨found ++ (more ++ []), readFrom_append hread (readFrom_cons hstep rfl), ?_⟩
  rw [List.append_nil]
  exact hfound.append hmore

/-- A comment ends with its line. -/
theorem readFrom_lineComment {s : List Char} (hs : '\n' ∉ s) :
    readFrom .lineComment (s ++ ['\n']) = some ([], .code []) := by
  induction s with
  | nil => rfl
  | cons c s ih =>
    rw [List.mem_cons, not_or] at hs
    have hstep : Spot.lineComment.step c = some ([], .lineComment) := by
      rw [Spot.step, if_neg (Ne.symm hs.1)]
    exact readFrom_cons hstep (ih hs.2)

/-- A line of a comment is passed over, whatever it says. -/
theorem readFrom_comment_line {indent s : List Char} (hindent : ∀ c ∈ indent, c = ' ')
    (hs : '\n' ∉ s) :
    readFrom (.code []) (indent ++ '/' :: '/' :: s ++ ['\n']) = some ([], .code []) := by
  have hblank : readFrom (.code []) indent = some ([], .code []) := by
    have hstep : Spot.step (.code []) ' ' = some ([], .code []) := by decide
    clear hs
    induction indent with
    | nil => rfl
    | cons c indent ih =>
      obtain ⟨rfl, hrest⟩ := List.forall_mem_cons.mp hindent
      exact readFrom_cons hstep (ih hrest)
  have hslashes : readFrom (.code []) ['/', '/'] = some ([], .lineComment) := by decide
  rw [List.append_assoc]
  exact readFrom_append hblank (readFrom_append hslashes (readFrom_lineComment hs))

/-! Texts. -/

/-- The text of a literal is what its own reader finds. -/
theorem readFrom_text {read s body rest : List Char} {state : LiteralState}
    (h : readLiteralFrom state body = some (s, rest)) :
    readFrom (.text read state) body =
      (readFrom (.code []) rest).map fun (found, last) =>
        (.text (read.reverse ++ s) :: found, last) := by
  induction body generalizing read s state with
  | nil => cases h
  | cons c body ih =>
    rw [readLiteralFrom] at h
    rw [readFrom, Spot.step]
    cases hstep : state.step c with
    | done =>
      rw [hstep] at h
      obtain ⟨rfl, rfl⟩ := Prod.mk.inj (Option.some.inj h)
      simp
    | fail =>
      rw [hstep] at h
      cases h
    | next found state =>
      rw [hstep, Option.map_eq_some_iff] at h
      obtain ⟨⟨t, after⟩, hread, heq⟩ := h
      obtain ⟨rfl, rfl⟩ := Prod.mk.inj heq
      dsimp only [Option.bind_some]
      rw [ih hread]
      cases found <;> simp [Function.comp_def]

/-- A literal is read as its text. -/
theorem readFrom_literalChars (s : List Char) :
    readFrom (.code []) (literalChars s) = some ([.text s], .code []) := by
  have hquote : Spot.step (.code []) '"' = some ([], .text [] .plain) := by decide
  have hbody : readFrom (.text [] .plain) (s.flatMap literalChar ++ ['"']) =
      some ([.text s], .code []) := by
    rw [readFrom_text (readLiteralFrom_flatMap s [])]
    rfl
  exact readFrom_cons hquote hbody

end ApiForge.Code
