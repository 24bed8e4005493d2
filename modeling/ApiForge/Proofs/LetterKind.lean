import ApiForge.Proofs.CodeBits
import ApiForge.Proofs.SnakeIdent
import ApiForge.Text.IdentifierChar

/-!
What a change of case keeps of a character. A letter may continue an identifier exactly when its
capital may and when its small form may, and it may begin one likewise, but for the one mark whose
capital is a letter; no digit comes in and none gets lost. Main statements: `exists_sameKind` about
capitals and `exists_sameClass` about small letters.
-/

namespace ApiForge.Text

def markShift : CaseShift := ⟨⟨0x345, 0x345, 1⟩, 84⟩

/-- Whether a shift leads from characters to characters, none of them a digit, and keeps what may
continue an identifier. -/
def CaseShift.isFaithful (s : CaseShift) : Bool :=
  s.avoids Name.surrogateRuns && Nat.blt s.image.last 0x110000 && Nat.ble 58 s.run.first &&
    Nat.ble 58 s.image.first && s.keeps (CodeRun.bitsOf identifierPartRuns)

/-- Whether a number is the code point of a character that continues identifiers and is no digit,
told for the characters of the lower planes. -/
def isLetterCode (n : Nat) : Bool :=
  Nat.ble 58 n && Nat.blt n 0xD800 && (CodeRun.bitsOf identifierPartRuns).testBit n

/-- Whether an entry of a table of texts leads from a letter of identifiers to such letters. -/
def isLetterEntry (p : Nat × List Nat) : Bool :=
  Nat.ble 58 p.1 && (CodeRun.bitsOf identifierPartRuns).testBit p.1
    && (CodeRun.bitsOf identifierStartRuns).testBit p.1
    && p.2.head?.any (CodeRun.bitsOf identifierStartRuns).testBit && p.2.all isLetterCode

/-- The tables of identifiers are in order, and what begins an identifier may continue one. -/
theorem identifierRuns_ordered :
    CodeRun.isAscending identifierStartRuns = true ∧
      CodeRun.isAscending identifierPartRuns = true ∧
      CodeRun.bitsOf identifierStartRuns &&& CodeRun.bitsOf identifierPartRuns =
        CodeRun.bitsOf identifierStartRuns := by
  decide +kernel

/-- Both changes of case keep what begins and continues identifiers, but for the one shift that
leads from a mark to a letter. -/
theorem caseTables_faithful :
    (∀ s ∈ toUpperShifts, s.isFaithful = true ∧ (s = markShift ∨
      s.run.holds 0x345 = false ∧ s.keeps (CodeRun.bitsOf identifierStartRuns) = true)) ∧
    (∀ p ∈ toUpperTexts, isLetterEntry p = true) ∧
    (∀ s ∈ toLowerShifts, s.isFaithful = true ∧
      s.keeps (CodeRun.bitsOf identifierStartRuns) = true) ∧
    ∀ p ∈ toLowerTexts, isLetterEntry p = true := by
  decide +kernel

theorem startsIdentifier_eq (c : Char) :
    startsIdentifier c = (CodeRun.bitsOf identifierStartRuns).testBit c.toNat :=
  CodeRun.covers_eq_testBit identifierRuns_ordered.1 _

theorem continuesIdentifier_eq (c : Char) :
    continuesIdentifier c = (CodeRun.bitsOf identifierPartRuns).testBit c.toNat :=
  CodeRun.covers_eq_testBit identifierRuns_ordered.2.1 _

theorem continuesIdentifier_of_startsIdentifier {c : Char} (h : startsIdentifier c = true) :
    continuesIdentifier c = true := by
  rw [startsIdentifier_eq, ← identifierRuns_ordered.2.2, Nat.testBit_and, Bool.and_eq_true] at h
  rw [continuesIdentifier_eq]
  exact h.2

theorem isDigit_eq_false {c : Char} (h : 58 ≤ c.toNat) : c.isDigit = false := by
  rw [← Bool.not_eq_true]
  intro hdigit
  have := toNat_lt_of_isDigit hdigit
  omega

/-- A faithful shift leads from a character to the character at its distance. -/
theorem CaseShift.spec_of_isFaithful {s : CaseShift} (h : s.isFaithful = true) {c : Char}
    (hc : s.run.holds c.toNat = true) :
    (Char.ofNat (c.toNat + s.distance).toNat).toNat = (c.toNat + s.distance).toNat ∧
      c.isDigit = false ∧ (Char.ofNat (c.toNat + s.distance).toNat).isDigit = false ∧
      continuesIdentifier (Char.ofNat (c.toNat + s.distance).toNat) = continuesIdentifier c := by
  simp only [isFaithful, Bool.and_eq_true, Nat.blt_eq, Nat.ble_eq] at h
  obtain ⟨⟨⟨⟨hsurrogate, hlast⟩, hrun⟩, himage⟩, hkeeps⟩ := h
  have hstart : 0 ≤ s.run.first + s.distance := by
    rw [avoids, Bool.and_eq_true, decide_eq_true_eq] at hsurrogate
    exact hsurrogate.1
  obtain ⟨hfirst, hbound, -⟩ := CodeRun.holds_iff.mp (image_holds hstart hc)
  have hcode : (Char.ofNat (c.toNat + s.distance).toNat).toNat = (c.toNat + s.distance).toNat :=
    Name.toNat_ofNat_of_not_covers (hbound.trans_lt hlast) (not_covers_of_avoids hsurrogate hc)
  refine ⟨hcode, ?_, ?_, ?_⟩
  · exact isDigit_eq_false (hrun.trans (CodeRun.holds_iff.mp hc).1)
  · apply isDigit_eq_false
    rw [hcode]
    exact himage.trans hfirst
  · rw [continuesIdentifier, continuesIdentifier, hcode]
    exact covers_of_keeps identifierRuns_ordered.2.1 hkeeps hc

theorem startsIdentifier_of_keeps {s : CaseShift} (hfaithful : s.isFaithful = true)
    (hkeeps : s.keeps (CodeRun.bitsOf identifierStartRuns) = true) {c : Char}
    (hc : s.run.holds c.toNat = true) :
    startsIdentifier (Char.ofNat (c.toNat + s.distance).toNat) = startsIdentifier c := by
  rw [startsIdentifier, startsIdentifier, (CaseShift.spec_of_isFaithful hfaithful hc).1]
  exact CaseShift.covers_of_keeps identifierRuns_ordered.1 hkeeps hc

theorem of_isLetterCode {n : Nat} (h : isLetterCode n = true) :
    (Char.ofNat n).toNat = n ∧ (Char.ofNat n).isDigit = false ∧
      continuesIdentifier (Char.ofNat n) = true := by
  simp only [isLetterCode, Bool.and_eq_true, Nat.ble_eq, Nat.blt_eq] at h
  obtain ⟨⟨hdigit, hplane⟩, hpart⟩ := h
  have hcode : (Char.ofNat n).toNat = n := by
    rw [Char.ofNat, dif_pos (.inl hplane)]
    rfl
  refine ⟨hcode, isDigit_eq_false (by rwa [hcode]), ?_⟩
  rw [continuesIdentifier_eq, hcode, hpart]

/-- An entry of letters leads from a letter that begins identifiers to one that does, and to letters
behind it that continue them. -/
theorem exists_letters_of_entry {c : Char} {codes : List Nat}
    (h : isLetterEntry (c.toNat, codes) = true) :
    ∃ head rest, codes.map Char.ofNat = head :: rest ∧
      (c.isDigit = false ∧ head.isDigit = false) ∧
      (startsIdentifier c = true ∧ startsIdentifier head = true) ∧
      (continuesIdentifier c = true ∧ continuesIdentifier head = true) ∧
      rest.all continuesIdentifier = true := by
  simp only [isLetterEntry, Bool.and_eq_true, Nat.ble_eq, List.all_eq_true] at h
  obtain ⟨⟨⟨⟨hdigit, hpart⟩, hstart⟩, hhead⟩, hcodes⟩ := h
  rcases codes with _ | ⟨n, more⟩
  · cases hhead
  · obtain ⟨hn, hmore⟩ := List.forall_mem_cons.mp hcodes
    obtain ⟨hcode, hndigit, hnpart⟩ := of_isLetterCode hn
    have hnstart : startsIdentifier (Char.ofNat n) = true := by
      rw [startsIdentifier_eq, hcode]
      exact hhead
    refine ⟨Char.ofNat n, more.map Char.ofNat, rfl, ⟨isDigit_eq_false hdigit, hndigit⟩,
      ⟨(startsIdentifier_eq c).trans hstart, hnstart⟩,
      ⟨(continuesIdentifier_eq c).trans hpart, hnpart⟩, ?_⟩
    rw [List.all_eq_true, List.forall_mem_map]
    exact fun d hd => (of_isLetterCode (hmore d hd)).2.2

/-- What a character has in common with the head of its capital: both are digits or neither is,
both may continue an identifier or neither may, and both may begin one or neither may, but for the
one mark that turns into a letter. -/
structure SameKind (c head : Char) : Prop where
  digit : head.isDigit = c.isDigit
  begins : startsIdentifier head = true ↔ startsIdentifier c = true ∨ c = '\u0345'
  continues : continuesIdentifier head = continuesIdentifier c

theorem sameKind_self {c : Char} (h : c ≠ '\u0345') : SameKind c c := ⟨rfl, by simp [h], rfl⟩

theorem sameKind_of_shift {s : CaseShift} (h : s ∈ toUpperShifts) {c : Char}
    (hc : s.run.holds c.toNat = true) :
    SameKind c (Char.ofNat (c.toNat + s.distance).toNat) := by
  obtain ⟨hfaithful, hstarts⟩ := caseTables_faithful.1 s h
  obtain ⟨-, hdigit, hmoved, hcontinues⟩ := CaseShift.spec_of_isFaithful hfaithful hc
  refine ⟨hmoved.trans hdigit.symm, ?_, hcontinues⟩
  rcases hstarts with rfl | ⟨hapart, hkeeps⟩
  · obtain ⟨hle, hge, -⟩ := CodeRun.holds_iff.mp hc
    obtain rfl : c = '\u0345' := by
      rw [← Char.toNat_inj]
      exact le_antisymm hge hle
    decide
  · rw [startsIdentifier_of_keeps hfaithful hkeeps hc]
    refine ⟨.inl, fun hor => hor.resolve_right ?_⟩
    rintro rfl
    rw [show ('\u0345' : Char).toNat = 0x345 from rfl, hapart] at hc
    cases hc

/-- The capital of a character begins with one of the same kind, and what follows it may continue
an identifier. -/
theorem exists_sameKind (c : Char) :
    ∃ head rest, toUppercase c = head :: rest ∧ SameKind c head ∧
      rest.all continuesIdentifier = true := by
  rw [toUppercase]
  rcases CaseShift.apply_cases toUpperShifts toUpperTexts c with
    hsame | ⟨s, hs, hn, hmoved⟩ | ⟨codes, hmem, htext⟩
  · refine ⟨c, [], hsame, sameKind_self ?_, rfl⟩
    rintro rfl
    revert hsame
    decide
  · exact ⟨_, [], hmoved, sameKind_of_shift hs hn, rfl⟩
  · obtain ⟨head, rest, heq, hdigit, hstart, hpart, hrest⟩ :=
      exists_letters_of_entry (caseTables_faithful.2.1 _ hmem)
    rw [htext]
    refine ⟨head, rest, heq, ⟨hdigit.2.trans hdigit.1.symm, ?_, hpart.2.trans hpart.1.symm⟩, hrest⟩
    simp [hstart]

/-- The small form of a character begins with one that may begin or continue an identifier exactly
when the character may, and what follows it may continue one. -/
theorem exists_sameClass (c : Char) :
    ∃ head rest, toLowercase c = head :: rest ∧ startsIdentifier head = startsIdentifier c ∧
      continuesIdentifier head = continuesIdentifier c ∧ rest.all continuesIdentifier = true := by
  rw [toLowercase]
  rcases CaseShift.apply_cases toLowerShifts toLowerTexts c with
    hsame | ⟨s, hs, hn, hmoved⟩ | ⟨codes, hmem, htext⟩
  · exact ⟨c, [], hsame, rfl, rfl, rfl⟩
  · obtain ⟨hfaithful, hkeeps⟩ := caseTables_faithful.2.2.1 s hs
    obtain ⟨-, -, -, hcontinues⟩ := CaseShift.spec_of_isFaithful hfaithful hn
    exact ⟨_, [], hmoved, startsIdentifier_of_keeps hfaithful hkeeps hn, hcontinues, rfl⟩
  · obtain ⟨head, rest, heq, -, hstart, hpart, hrest⟩ :=
      exists_letters_of_entry (caseTables_faithful.2.2.2 _ hmem)
    rw [htext]
    exact ⟨head, rest, heq, hstart.2.trans hstart.1.symm, hpart.2.trans hpart.1.symm, hrest⟩

end ApiForge.Text
