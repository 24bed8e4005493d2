import ApiForge.Proofs.JsonText
import Mathlib.Data.List.Forall2

/-!
Reading well-formed JSON texts. Main statement: wherever a well-formed text stands, alone or in a
list or table, it is read to its end and gives the same draft, as long as no more lists and tables
are open than may be (`exists_reads`).
-/

namespace ApiForge.Draft

open Json

/-- A text that gives a draft whatever follows it in a list or table, with no more than space left
of it, while there is room for `n` more lists and tables to open. -/
def Reads (n : Nat) (s : List Char) (d : Draft) : Prop :=
  ∀ fuel depth rest, 2 * s.length ≤ fuel → depth + n ≤ maxDepth → Ends rest →
    ∃ left, readValue fuel depth (s ++ rest) = (d, some left) ∧ skipSpace left = skipSpace rest

theorem readValue_skipSpace (fuel depth : Nat) (s : List Char) :
    readValue fuel depth (skipSpace s) = readValue fuel depth s := by
  cases fuel with
  | zero => rw [readValue, readValue]
  | succ fuel => rw [readValue, readValue, skipSpace_skipSpace]

theorem readItems_skipSpace (fuel depth : Nat) (s : List Char) :
    readItems fuel depth (skipSpace s) = readItems fuel depth s := by
  cases fuel with
  | zero => rw [readItems, readItems]
  | succ fuel => rw [readItems, readItems, readValue_skipSpace]

theorem readEntries_skipSpace (fuel depth : Nat) (s : List Char) :
    readEntries fuel depth (skipSpace s) = readEntries fuel depth s := by
  cases fuel with
  | zero => rw [readEntries, readEntries]
  | succ fuel => rw [readEntries, readEntries, skipSpace_skipSpace]

variable {n : Nat} {s : List Char} {d : Draft}

theorem Reads.before {c : Char} (hc : isSpace c = true) (h : Reads n s d) :
    Reads n (c :: s) d := by
  intro fuel depth rest hfuel hdepth hrest
  rw [List.length_cons] at hfuel
  rw [List.cons_append, ← readValue_skipSpace, skipSpace_cons_of_space hc, readValue_skipSpace]
  exact h fuel depth rest (by omega) hdepth hrest

theorem Reads.after {c : Char} (hc : isSpace c = true) (h : Reads n s d) :
    Reads n (s ++ [c]) d := by
  intro fuel depth rest hfuel hdepth hrest
  rw [List.length_append] at hfuel
  have hends : Ends (c :: rest) := by
    intro x hx
    cases hx
    exact .inl hc
  rw [List.append_assoc, List.singleton_append, ← skipSpace_cons_of_space hc rest]
  exact h fuel depth (c :: rest) (by omega) hdepth hends

/-- The values that are no lists or tables leave nothing of their text. -/
theorem Reads.of_exact (hlength : 0 < s.length)
    (h : ∀ fuel depth rest, Ends rest → readValue (fuel + 1) depth (s ++ rest) = (d, some rest)) :
    Reads n s d := by
  intro fuel depth rest hfuel _ hrest
  obtain ⟨fuel, rfl⟩ : ∃ m, fuel = m + 1 := ⟨fuel - 1, by omega⟩
  exact ⟨rest, h fuel depth rest hrest, rfl⟩

theorem exists_reads_word
    (h : s ∈ [['n', 'u', 'l', 'l'], ['t', 'r', 'u', 'e'], ['f', 'a', 'l', 's', 'e']]) :
    ∃ d, Reads n s d := by
  simp only [List.mem_cons, List.not_mem_nil, or_false] at h
  rcases h with rfl | rfl | rfl
  · exact ⟨ofJsonScalar .null, .of_exact (by decide) fun fuel depth rest _ => by
      rw [readValue]
      rfl⟩
  · exact ⟨ofJsonScalar (.bool true), .of_exact (by decide) fun fuel depth rest _ => by
      rw [readValue]
      rfl⟩
  · exact ⟨ofJsonScalar (.bool false), .of_exact (by decide) fun fuel depth rest _ => by
      rw [readValue]
      rfl⟩

theorem exists_readString (h : IsStringBody s) :
    ∃ d, ∀ rest, readString (s ++ '"' :: rest) = (d, some rest) := by
  obtain ⟨pieces, hpieces⟩ := exists_readPieces h
  cases hjoin : joinPieces pieces with
  | some cs =>
    refine ⟨ofJsonScalar (.str (String.ofList cs)), fun rest => ?_⟩
    rw [readString, hpieces]
    dsimp only
    rw [hjoin]
  | none =>
    refine ⟨unreadable .malformed, fun rest => ?_⟩
    rw [readString, hpieces]
    dsimp only
    rw [hjoin]

theorem exists_readNumber (h : IsNumber s) :
    ∃ d, ∀ rest, Ends rest → readNumber (s ++ rest) = (d, some rest) := by
  obtain ⟨m, hm⟩ := exists_readNumeral h
  cases hvalue : m.value with
  | some v =>
    refine ⟨ofJsonScalar v, fun rest hrest => ?_⟩
    rw [readNumber, hm rest hrest]
    dsimp only
    rw [hvalue]
  | none =>
    refine ⟨unreadable .malformed, fun rest hrest => ?_⟩
    rw [readNumber, hm rest hrest]
    dsimp only
    rw [hvalue]

theorem exists_reads_string (h : IsStringBody s) : ∃ d, Reads n ('"' :: (s ++ ['"'])) d := by
  obtain ⟨d, hd⟩ := exists_readString h
  refine ⟨d, .of_exact (by simp) fun fuel depth rest _ => ?_⟩
  rw [List.cons_append, List.append_assoc, List.singleton_append, readValue]
  exact hd rest

/-- What a number starts with is neither space nor the start of something else. -/
theorem ne_of_number {c x : Char} (hc : c = '-' ∨ c.isDigit = true)
    (hx : x ∈ [' ', '\t', '\n', '\r', '"', '[', ']', '\x7b', 'n', 't', 'f']) : c ≠ x := by
  have hother : [' ', '\t', '\n', '\r', '"', '[', ']', '\x7b', 'n', 't', 'f'].all
      (fun x => x != '-' && !x.isDigit) = true := by decide
  rintro rfl
  obtain ⟨hminus, hdigit⟩ := Bool.and_eq_true_iff.mp (List.all_eq_true.mp hother c hx)
  rcases hc with hc | hc
  · exact bne_iff_ne.mp hminus hc
  · rw [hc] at hdigit
    cases hdigit

theorem isSpace_of_number {c : Char} (hc : c = '-' ∨ c.isDigit = true) : isSpace c = false := by
  rw [← Bool.not_eq_true, isSpace_iff]
  exact fun h => ne_of_number hc (List.mem_append_left _ h) rfl

theorem readValue_number {c : Char} (hc : c = '-' ∨ c.isDigit = true) (fuel depth : Nat)
    (s : List Char) : readValue (fuel + 1) depth (c :: s) = readNumber (c :: s) := by
  have hminus : (c == '-' || c.isDigit) = true := by simpa using hc
  rw [readValue, skipSpace_cons (isSpace_of_number hc)]
  split
  · next heq => cases heq
  · next heq => exact absurd (List.head_eq_of_cons_eq heq) (ne_of_number hc (by decide))
  · next heq => exact absurd (List.head_eq_of_cons_eq heq) (ne_of_number hc (by decide))
  · next heq => exact absurd (List.head_eq_of_cons_eq heq) (ne_of_number hc (by decide))
  · next heq =>
    cases heq
    rw [if_neg, if_neg, if_neg, if_pos hminus]
    · exact fun h => ne_of_number hc (by decide) (beq_iff_eq.mp h)
    · exact fun h => ne_of_number hc (by decide) (beq_iff_eq.mp h)
    · exact fun h => ne_of_number hc (by decide) (beq_iff_eq.mp h)

/-- A number starts with a sign or a digit. -/
theorem exists_head_number (h : IsNumber s) :
    ∃ c t, s = c :: t ∧ (c = '-' ∨ c.isDigit = true) := by
  obtain @⟨sign, whole, fraction, exponent, hsign, hwhole, -, -, -⟩ := h
  rcases hsign with rfl | rfl
  · obtain ⟨c, whole, rfl⟩ := List.exists_cons_of_ne_nil hwhole.1
    exact ⟨c, _, rfl, .inr (hwhole.2 c List.mem_cons_self)⟩
  · exact ⟨'-', _, rfl, .inl rfl⟩

theorem exists_reads_number (h : IsNumber s) : ∃ d, Reads n s d := by
  obtain ⟨d, hd⟩ := exists_readNumber h
  obtain ⟨c, t, rfl, hc⟩ := exists_head_number h
  refine ⟨d, .of_exact (Nat.succ_pos _) fun fuel depth rest hrest => ?_⟩
  exact (readValue_number hc fuel depth (t ++ rest)).trans (hd rest hrest)

/-! Lists. -/

theorem ends_cons {c : Char} (h : c ∈ [',', ']', '\x7d']) (s : List Char) : Ends (c :: s) := by
  intro x hx
  cases hx
  exact .inr h

theorem skipSpace_sign {c : Char} (h : c ∈ [',', ']', '\x7d', ':']) (s : List Char) :
    skipSpace (c :: s) = c :: s := by
  have hsigns : [',', ']', '\x7d', ':'].all (fun c => !isSpace c) = true := by decide
  exact skipSpace_cons (by simpa using List.all_eq_true.mp hsigns c h) s

theorem joined_cons {item : List Char} {items : List (List Char)} (hne : items ≠ []) :
    joined (item :: items) = item ++ ',' :: joined items := by
  obtain ⟨other, items, rfl⟩ := List.exists_cons_of_ne_nil hne
  rw [joined, List.intercalate_cons_cons, List.append_assoc]
  rfl

theorem joined_singleton (item : List Char) : joined [item] = item :=
  List.intercalate_singleton

theorem exists_joined_cons (item : List Char) (items : List (List Char)) :
    ∃ more, joined (item :: items) = item ++ more := by
  cases items with
  | nil => exact ⟨[], (joined_singleton item).trans (List.append_nil item).symm⟩
  | cons other items => exact ⟨_, joined_cons (List.cons_ne_nil other items)⟩

theorem readItems_joined {items : List (List Char)} {drafts : List Draft}
    (h : List.Forall₂ (Reads n) items drafts) (hne : items ≠ []) (fuel depth : Nat)
    (rest : List Char) (hfuel : 2 * (joined items).length + 1 ≤ fuel)
    (hdepth : depth + n ≤ maxDepth) :
    readItems fuel depth (joined items ++ ']' :: rest) = (drafts, some rest) := by
  induction h generalizing fuel with
  | nil => exact absurd rfl hne
  | @cons item d items drafts hitem hitems ih =>
    obtain ⟨fuel, rfl⟩ : ∃ m, fuel = m + 1 := ⟨fuel - 1, by omega⟩
    by_cases hnil : items = []
    · subst hnil
      cases hitems
      rw [joined_singleton] at hfuel ⊢
      obtain ⟨left, hread, hleft⟩ :=
        hitem fuel depth (']' :: rest) (by omega) hdepth (ends_cons (by decide) rest)
      rw [readItems, hread]
      dsimp only
      rw [hleft, skipSpace_sign (by decide)]
      rfl
    · rw [joined_cons hnil, List.length_append, List.length_cons] at hfuel
      rw [joined_cons hnil, List.append_assoc, List.cons_append]
      obtain ⟨left, hread, hleft⟩ := hitem fuel depth (',' :: (joined items ++ ']' :: rest))
        (by omega) hdepth (ends_cons (by decide) _)
      rw [readItems, hread]
      dsimp only
      rw [hleft, skipSpace_sign (by decide)]
      change (d :: (readItems fuel depth _).1, (readItems fuel depth _).2) = _
      rw [ih hnil fuel (by omega)]

/-- Reads the items of a list from after its bracket. -/
def readListBody (fuel depth : Nat) (s : List Char) : List Draft × Option (List Char) :=
  match skipSpace s with
  | ']' :: rest => ([], some rest)
  | rest => readItems fuel depth rest

theorem readValue_list (fuel depth : Nat) (s : List Char) :
    readValue (fuel + 1) depth ('[' :: s) =
      (atDepth (depth + 1) (.list (some .malformed) (readListBody fuel (depth + 1) s).1),
        (readListBody fuel (depth + 1) s).2) := by
  rw [readValue, skipSpace_cons (by decide)]
  rfl

theorem readListBody_eq {fuel depth : Nat} (hopens : (skipSpace s).head? ≠ some ']') :
    readListBody fuel depth s = readItems fuel depth s := by
  rw [readListBody]
  split
  · next heq =>
    rw [heq] at hopens
    exact absurd rfl hopens
  · exact readItems_skipSpace fuel depth s

/-- A list whose brackets hold some items, or none, is read when what they hold is. -/
theorem reads_list_of_body {drafts : List Draft}
    (h : ∀ fuel depth rest, 2 * s.length + 1 ≤ fuel → depth + n ≤ maxDepth →
      readListBody fuel depth (s ++ ']' :: rest) = (drafts, some rest)) :
    Reads (n + 1) ('[' :: (s ++ [']'])) (.list (some .malformed) drafts) := by
  intro fuel depth rest hfuel hdepth _
  rw [List.length_cons, List.length_append] at hfuel
  obtain ⟨fuel, rfl⟩ : ∃ m, fuel = m + 1 := ⟨fuel - 1, by omega⟩
  refine ⟨rest, ?_, rfl⟩
  rw [List.cons_append, List.append_assoc, List.singleton_append, readValue_list,
    h fuel (depth + 1) rest (by omega) (by omega), atDepth, if_pos (by omega)]

theorem reads_emptyList (h : IsBlank s) :
    Reads (n + 1) ('[' :: (s ++ [']'])) (.list (some .malformed) []) := by
  refine reads_list_of_body fun fuel depth rest _ _ => ?_
  rw [readListBody, skipSpace_blank h, skipSpace_sign (by decide)]
  rfl

theorem reads_list {items : List (List Char)} {drafts : List Draft}
    (h : List.Forall₂ (Reads n) items drafts) (hne : items ≠ [])
    (hopens : ∀ rest, (skipSpace (joined items ++ rest)).head? ≠ some ']') :
    Reads (n + 1) ('[' :: (joined items ++ [']'])) (.list (some .malformed) drafts) := by
  refine reads_list_of_body fun fuel depth rest hfuel hdepth => ?_
  rw [readListBody_eq (hopens _)]
  exact readItems_joined h hne fuel depth rest hfuel hdepth

/-! Tables. -/

/-- A key that gives a draft whatever follows its colon. -/
def ReadsKey (s : List Char) (d : Draft) : Prop :=
  ∀ rest, ∃ body left, skipSpace (s ++ ':' :: rest) = '"' :: body ∧
    readString body = (d, some left) ∧ skipSpace left = ':' :: rest

theorem exists_readsKey (h : IsKey s) : ∃ d, ReadsKey s d := by
  obtain ⟨before, body, after, hbefore, hbody, hafter, rfl⟩ := h
  obtain ⟨d, hd⟩ := exists_readString hbody
  refine ⟨d, fun rest => ⟨_, after ++ ':' :: rest, ?_, hd _, ?_⟩⟩
  · rw [List.append_assoc, skipSpace_blank hbefore, List.cons_append, List.append_assoc,
      List.cons_append, skipSpace_cons (by decide)]
  · rw [skipSpace_blank hafter, skipSpace_sign (by decide)]

def entryText (e : List Char × List Char) : List Char := e.1 ++ ':' :: e.2

/-- What an entry gives as a key and a value. -/
def ReadsEntry (n : Nat) (e : List Char × List Char) (d : Draft × Draft) : Prop :=
  ReadsKey e.1 d.1 ∧ Reads n e.2 d.2

/-- What follows an entry, after the space before it. -/
def readEntriesRest (fuel depth : Nat) (d : Draft × Draft) :
    List Char → List (Draft × Draft) × Option (List Char)
  | '\x7d' :: rest => ([d], some rest)
  | ',' :: rest => (d :: (readEntries fuel depth rest).1, (readEntries fuel depth rest).2)
  | _ => ([d, (.broken .malformed, .broken .malformed)], none)

theorem readEntries_entry {e : List Char × List Char} {d : Draft × Draft} (h : ReadsEntry n e d)
    {fuel depth : Nat} {rest : List Char} (hfuel : 2 * (entryText e).length ≤ fuel)
    (hdepth : depth + n ≤ maxDepth) (hrest : Ends rest) :
    readEntries (fuel + 1) depth (entryText e ++ rest) =
      readEntriesRest fuel depth d (skipSpace rest) := by
  obtain ⟨hkey, hvalue⟩ := h
  obtain ⟨body, left, hopens, hread, hleft⟩ := hkey (e.2 ++ rest)
  rw [entryText, List.length_append, List.length_cons] at hfuel
  obtain ⟨left', hread', hleft'⟩ := hvalue fuel depth rest (by omega) hdepth hrest
  rw [entryText, List.append_assoc, List.cons_append, readEntries, hopens]
  simp only [hread, Option.map_some, hleft, hread', hleft']
  generalize skipSpace rest = t
  unfold readEntriesRest
  split
  · next heq =>
    cases heq
    rfl
  · next heq =>
    cases heq
    rfl
  · simp_all
  · next heq => cases heq

theorem readEntries_joined {entries : List (List Char × List Char)} {drafts : List (Draft × Draft)}
    (h : List.Forall₂ (ReadsEntry n) entries drafts) (hne : entries ≠ []) (fuel depth : Nat)
    (rest : List Char) (hfuel : 2 * (joined (entries.map entryText)).length + 1 ≤ fuel)
    (hdepth : depth + n ≤ maxDepth) :
    readEntries fuel depth (joined (entries.map entryText) ++ '\x7d' :: rest) =
      (drafts, some rest) := by
  induction h generalizing fuel with
  | nil => exact absurd rfl hne
  | @cons e d entries drafts hentry hentries ih =>
    obtain ⟨fuel, rfl⟩ : ∃ m, fuel = m + 1 := ⟨fuel - 1, by omega⟩
    by_cases hnil : entries = []
    · subst hnil
      cases hentries
      rw [List.map_cons, List.map_nil, joined_singleton] at hfuel ⊢
      rw [readEntries_entry hentry (by omega) hdepth (ends_cons (by decide) rest),
        skipSpace_sign (by decide)]
      rfl
    · have hmap : entries.map entryText ≠ [] := by simpa using hnil
      rw [List.map_cons, joined_cons hmap, List.length_append, List.length_cons] at hfuel
      rw [List.map_cons, joined_cons hmap, List.append_assoc, List.cons_append,
        readEntries_entry hentry (by omega) hdepth (ends_cons (by decide) _),
        skipSpace_sign (by decide)]
      change (d :: (readEntries fuel depth _).1, (readEntries fuel depth _).2) = _
      rw [ih hnil fuel (by omega)]

def readTableBody (fuel depth : Nat) (s : List Char) :
    List (Draft × Draft) × Option (List Char) :=
  match skipSpace s with
  | '\x7d' :: rest => ([], some rest)
  | rest => readEntries fuel depth rest

theorem readValue_table (fuel depth : Nat) (s : List Char) :
    readValue (fuel + 1) depth ('\x7b' :: s) =
      (atDepth (depth + 1) (.dict (readTableBody fuel (depth + 1) s).1),
        (readTableBody fuel (depth + 1) s).2) := by
  rw [readValue, skipSpace_cons (by decide)]
  rfl

theorem readTableBody_eq {fuel depth : Nat} (hopens : (skipSpace s).head? ≠ some '\x7d') :
    readTableBody fuel depth s = readEntries fuel depth s := by
  rw [readTableBody]
  split
  · next heq =>
    rw [heq] at hopens
    exact absurd rfl hopens
  · exact readEntries_skipSpace fuel depth s

/-- A table is read when what its braces hold is. -/
theorem reads_table_of_body {drafts : List (Draft × Draft)}
    (h : ∀ fuel depth rest, 2 * s.length + 1 ≤ fuel → depth + n ≤ maxDepth →
      readTableBody fuel depth (s ++ '\x7d' :: rest) = (drafts, some rest)) :
    Reads (n + 1) ('\x7b' :: (s ++ ['\x7d'])) (.dict drafts) := by
  intro fuel depth rest hfuel hdepth _
  rw [List.length_cons, List.length_append] at hfuel
  obtain ⟨fuel, rfl⟩ : ∃ m, fuel = m + 1 := ⟨fuel - 1, by omega⟩
  refine ⟨rest, ?_, rfl⟩
  rw [List.cons_append, List.append_assoc, List.singleton_append, readValue_table,
    h fuel (depth + 1) rest (by omega) (by omega), atDepth, if_pos (by omega)]

theorem reads_emptyTable (h : IsBlank s) :
    Reads (n + 1) ('\x7b' :: (s ++ ['\x7d'])) (.dict []) := by
  refine reads_table_of_body fun fuel depth rest _ _ => ?_
  rw [readTableBody, skipSpace_blank h, skipSpace_sign (by decide)]
  rfl

theorem reads_table {entries : List (List Char × List Char)} {drafts : List (Draft × Draft)}
    (h : List.Forall₂ (ReadsEntry n) entries drafts) (hne : entries ≠ []) :
    Reads (n + 1) ('\x7b' :: (joined (entries.map entryText) ++ ['\x7d'])) (.dict drafts) := by
  refine reads_table_of_body fun fuel depth rest hfuel hdepth => ?_
  have hopens : (skipSpace (joined (entries.map entryText) ++ '\x7d' :: rest)).head? ≠
      some '\x7d' := by
    cases h with
    | nil => exact absurd rfl hne
    | @cons e d entries drafts hentry _ =>
      obtain ⟨more, hmore⟩ := exists_joined_cons (entryText e) (entries.map entryText)
      obtain ⟨body, _, hkey, -, -⟩ := hentry.1 (e.2 ++ (more ++ '\x7d' :: rest))
      rw [List.map_cons, hmore, entryText, List.append_assoc, List.append_assoc, List.cons_append,
        hkey]
      exact fun h => absurd (Option.some.inj h) (by decide)
  rw [readTableBody_eq hopens]
  exact readEntries_joined h hne fuel depth rest hfuel hdepth

/-! Every text. -/

/-- A text holds more than space, and it does not start like the end of a list. -/
theorem exists_head_text (h : IsText n s) : ∃ c t, skipSpace s = c :: t ∧ c ≠ ']' := by
  induction h with
  | before hc _ ih =>
    rw [skipSpace_cons_of_space hc]
    exact ih
  | @after n c s hc _ ih =>
    obtain ⟨x, t, hx, hne⟩ := ih
    have hfull : skipSpace s ≠ [] := by simp [hx]
    exact ⟨x, t ++ [c], by rw [skipSpace_append hfull, hx, List.cons_append], hne⟩
  | word h =>
    simp only [List.mem_cons, List.not_mem_nil, or_false] at h
    rcases h with rfl | rfl | rfl
    · exact ⟨'n', _, rfl, by decide⟩
    · exact ⟨'t', _, rfl, by decide⟩
    · exact ⟨'f', _, rfl, by decide⟩
  | number h =>
    obtain ⟨c, t, rfl, hc⟩ := exists_head_number h
    exact ⟨c, t, skipSpace_cons (isSpace_of_number hc) t, ne_of_number hc (by decide)⟩
  | string _ => exact ⟨'"', _, skipSpace_cons (by decide) _, by decide⟩
  | emptyList _ => exact ⟨'[', _, skipSpace_cons (by decide) _, by decide⟩
  | list _ _ _ => exact ⟨'[', _, skipSpace_cons (by decide) _, by decide⟩
  | emptyTable _ => exact ⟨'\x7b', _, skipSpace_cons (by decide) _, by decide⟩
  | table _ _ _ _ => exact ⟨'\x7b', _, skipSpace_cons (by decide) _, by decide⟩

theorem exists_forall₂ {α β : Type} {R : α → β → Prop} {l : List α} (h : ∀ a ∈ l, ∃ b, R a b) :
    ∃ bs, List.Forall₂ R l bs := by
  induction l with
  | nil => exact ⟨[], .nil⟩
  | cons a l ih =>
    rw [List.forall_mem_cons] at h
    obtain ⟨b, hb⟩ := h.1
    obtain ⟨bs, hbs⟩ := ih h.2
    exact ⟨b :: bs, .cons hb hbs⟩

/-- Where the items of a list are texts, it does not close at once. -/
theorem joined_not_closing {items : List (List Char)} (hne : items ≠ [])
    (h : ∀ item ∈ items, IsText n item) (rest : List Char) :
    (skipSpace (joined items ++ rest)).head? ≠ some ']' := by
  obtain ⟨item, items, rfl⟩ := List.exists_cons_of_ne_nil hne
  obtain ⟨more, hmore⟩ := exists_joined_cons item items
  obtain ⟨c, t, hc, hsign⟩ := exists_head_text (h item List.mem_cons_self)
  have hfull : skipSpace item ≠ [] := by simp [hc]
  rw [hmore, List.append_assoc, skipSpace_append hfull, hc]
  simpa using hsign

/-- A well-formed text gives the same draft wherever it stands. -/
theorem exists_reads (h : IsText n s) : ∃ d, Reads n s d := by
  induction h with
  | before hc _ ih => exact ih.imp fun d hd => hd.before hc
  | after hc _ ih => exact ih.imp fun d hd => hd.after hc
  | word h => exact exists_reads_word h
  | number h => exact exists_reads_number h
  | string h => exact exists_reads_string h
  | emptyList h => exact ⟨_, reads_emptyList h⟩
  | list hne hitems ih =>
    obtain ⟨drafts, hdrafts⟩ := exists_forall₂ ih
    exact ⟨_, reads_list hdrafts hne (joined_not_closing hne hitems)⟩
  | emptyTable h => exact ⟨_, reads_emptyTable h⟩
  | @table n entries hne hkeys _ ih =>
    have hentries : ∀ e ∈ entries, ∃ d, ReadsEntry n e d := by
      intro e he
      obtain ⟨key, hkey⟩ := exists_readsKey (hkeys e he)
      obtain ⟨value, hvalue⟩ := ih e he
      exact ⟨(key, value), hkey, hvalue⟩
    obtain ⟨drafts, hdrafts⟩ := exists_forall₂ hentries
    exact ⟨_, reads_table hdrafts hne⟩

/-- A text that opens a list is one, of some items. -/
theorem exists_isListText (h : IsText (n + 1) s) (hopens : (skipSpace s).head? = some '[') :
    ∃ items, IsListText n s items := by
  generalize hm : n + 1 = m at h
  induction h with
  | before hc _ ih =>
    rw [skipSpace_cons_of_space hc] at hopens
    obtain ⟨items, hitems⟩ := ih hopens hm
    exact ⟨items, hitems.before hc⟩
  | @after m c s hc h ih =>
    obtain ⟨x, t, hx, _⟩ := exists_head_text h
    have hfull : skipSpace s ≠ [] := by simp [hx]
    rw [skipSpace_append hfull, hx, List.cons_append, List.head?_cons] at hopens
    obtain ⟨items, hitems⟩ := ih (by rw [hx]; exact hopens) hm
    exact ⟨items, hitems.after hc⟩
  | word h =>
    simp only [List.mem_cons, List.not_mem_nil, or_false] at h
    rcases h with rfl | rfl | rfl
    · exact absurd hopens (by decide)
    · exact absurd hopens (by decide)
    · exact absurd hopens (by decide)
  | number h =>
    obtain ⟨c, t, rfl, hc⟩ := exists_head_number h
    rw [skipSpace_cons (isSpace_of_number hc)] at hopens
    exact absurd (Option.some.inj hopens) (ne_of_number hc (by decide))
  | string _ =>
    rw [skipSpace_cons (by decide)] at hopens
    exact absurd (Option.some.inj hopens) (by decide)
  | emptyList h => exact ⟨[], .empty h⟩
  | list hne h _ =>
    cases hm
    exact ⟨_, .items hne h⟩
  | emptyTable _ =>
    rw [skipSpace_cons (by decide)] at hopens
    exact absurd (Option.some.inj hopens) (by decide)
  | table _ _ _ _ =>
    rw [skipSpace_cons (by decide)] at hopens
    exact absurd (Option.some.inj hopens) (by decide)

/-- A list gives the drafts that its items give when they stand alone. -/
theorem exists_reads_listText {items : List (List Char)} (h : IsListText n s items) :
    ∃ drafts, List.Forall₂ (Reads n) items drafts ∧
      Reads (n + 1) s (.list (some .malformed) drafts) := by
  induction h with
  | before hc _ ih => exact ih.imp fun _ h => ⟨h.1, h.2.before hc⟩
  | after hc _ ih => exact ih.imp fun _ h => ⟨h.1, h.2.after hc⟩
  | empty h => exact ⟨[], .nil, reads_emptyList h⟩
  | items hne h =>
    obtain ⟨drafts, hdrafts⟩ := exists_forall₂ fun item hitem => exists_reads (h item hitem)
    exact ⟨drafts, hdrafts, reads_list hdrafts hne (joined_not_closing hne h)⟩

theorem Reads.read_eq {text : String} (h : Reads n text.toList d) (hn : n ≤ maxDepth) :
    Json.read text = { root := d, rest := .ok () } := by
  obtain ⟨left, hread, hleft⟩ :=
    h (2 * text.toList.length + 2) 0 [] (by omega) (by omega) (fun c hc => by cases hc)
  rw [List.append_nil] at hread
  rw [Json.read, hread]
  dsimp only
  rw [hleft]
  rfl

end ApiForge.Draft
