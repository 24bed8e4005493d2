import ApiForge.Document.Basic
import ApiForge.Proofs.SnakeIdent

/-!
The names of methods. The name of a method is made of a verb with a capital and what the path says.
The small letters of the verb stay in one word with its capital, so whatever follows, the name in
snake case begins with the verb. Main statement: `exists_candidate_verb`.
-/

namespace ApiForge

namespace Text

/-- A small letter that is no capital. -/
def isSmall (c : Char) : Bool := isLowercase c && !isUppercase c

theorem exists_humps_prefix (seen : Casing) (word s : List Char) :
    ∃ more rest, humps seen word s = (word.reverse ++ more) :: rest := by
  induction seen, word, s using humps.induct with
  | case1 seen word => exact ⟨[], [], by rw [humps, List.append_nil]⟩
  | case2 seen word c => exact ⟨[c], [], by rw [humps, List.reverse_cons]⟩
  | case3 seen word c d rest hends ih =>
    exact ⟨[c], humps .unset [] (d :: rest), by rw [humps, if_pos hends, List.reverse_cons]⟩
  | case4 seen word c d rest hends hstarts ih =>
    refine ⟨[], humps .unset [c] (d :: rest), ?_⟩
    rw [humps, if_neg hends, if_pos hstarts, List.append_nil]
  | case5 seen word c d rest hends hstarts ih =>
    obtain ⟨more, others, heq⟩ := ih
    refine ⟨c :: more, others, ?_⟩
    rw [humps, if_neg hends, if_neg hstarts, heq, List.reverse_cons, List.append_assoc,
      List.singleton_append]

/-- Small letters go on with the word before them. -/
theorem exists_humps_small (seen : Casing) (word : List Char) {w : List Char}
    (hw : ∀ c ∈ w, isSmall c = true) (s : List Char) :
    ∃ more rest, humps seen word (w ++ s) = (word.reverse ++ w ++ more) :: rest := by
  induction w generalizing seen word with
  | nil =>
    rw [List.append_nil]
    exact exists_humps_prefix seen word s
  | cons c w ih =>
    obtain ⟨hc, hw⟩ := List.forall_mem_cons.mp hw
    rw [isSmall, Bool.and_eq_true, Bool.not_eq_true'] at hc
    obtain ⟨more, others, heq⟩ := ih (seen.after c) (c :: word) hw
    rw [List.cons_append]
    cases hs : w ++ s with
    | nil =>
      obtain ⟨rfl, -⟩ := List.append_eq_nil_iff.mp hs
      exact ⟨[], [], by rw [humps, List.reverse_cons, List.append_nil]⟩
    | cons d rest =>
      by_cases hends : seen.after c = .lower ∧ isUppercase d = true
      · -- A capital behind the letter is not one of the small ones.
        cases w with
        | nil =>
          refine ⟨[], humps .unset [] (d :: rest), ?_⟩
          rw [humps, if_pos hends, List.reverse_cons, List.append_nil]
        | cons e w =>
          obtain ⟨rfl, -⟩ := List.cons.inj hs
          have hsmall := hw e List.mem_cons_self
          rw [isSmall, hends.2, Bool.not_true, Bool.and_false] at hsmall
          cases hsmall
      · have hstarts : ¬ (seen = .upper ∧ isUppercase c = true ∧ isLowercase d = true) := by
          rintro ⟨-, hupper, -⟩
          rw [hc.2] at hupper
          cases hupper
        refine ⟨more, others, ?_⟩
        rw [humps, if_neg hends, if_neg hstarts, ← hs, heq, List.reverse_cons,
          List.append_assoc word.reverse, List.singleton_append]

theorem lowerWord_append {w : List Char} (hw : 'Σ' ∉ w) (s : List Char) :
    lowerWord (w ++ s) = w.flatMap toLowercase ++ lowerWord s := by
  induction w with
  | nil => rfl
  | cons c w ih =>
    rw [List.mem_cons, not_or] at hw
    rw [List.cons_append, List.flatMap_cons, List.append_assoc, ← ih hw.2]
    cases hs : w ++ s with
    | nil =>
      have hsigma : c ≠ 'Σ' := Ne.symm hw.1
      rw [lowerWord, lowerWord, if_neg hsigma, List.append_nil]
    | cons d rest =>
      rw [lowerWord]
      exact List.cons_ne_nil d rest

/-- A capital with small letters behind it. -/
structure IsTitle (s : List Char) : Prop where
  capital : s.head?.all (fun c => !isLowercase c && isUppercase c) = true
  small : s.tail.all isSmall = true
  tail_ne_nil : s.tail ≠ []
  letters : s.all isAlphanumeric = true
  sigma : 'Σ' ∉ s

theorem exists_humps_title {title : List Char} (h : IsTitle title) (s : List Char) :
    ∃ more rest, humps .unset [] (title ++ s) = (title ++ more) :: rest := by
  obtain ⟨hcapital, hsmall, htail, -, -⟩ := h
  rcases title with _ | ⟨c, _ | ⟨d, tail⟩⟩
  · exact absurd rfl htail
  · exact absurd rfl htail
  · simp only [List.head?_cons, Option.all_some, Bool.and_eq_true, Bool.not_eq_true'] at hcapital
    obtain ⟨hlower, hupper⟩ := hcapital
    have hseen : Casing.unset.after c = .upper := by
      rw [Casing.after, hlower, hupper]
      rfl
    obtain ⟨more, rest, heq⟩ := exists_humps_small .upper [c] (List.all_eq_true.mp hsmall) s
    refine ⟨more, rest, ?_⟩
    rw [List.cons_append, List.cons_append, humps, hseen, if_neg (by simp), if_neg (by simp)]
    exact heq

/-- A name that begins with a title begins with its small letters in snake case. -/
theorem exists_snakeCase_title {title : List Char} (h : IsTitle title) (s : List Char) :
    ∃ rest, snakeCase (title ++ s) = title.flatMap toLowercase ++ rest := by
  obtain ⟨first, others, hpieces⟩ :=
    List.exists_cons_of_ne_nil (pieces_ne_nil (fun c => !isAlphanumeric c) s)
  obtain ⟨more, rest, hhumps⟩ := exists_humps_title h first
  have hletters : ∀ c ∈ title, (!isAlphanumeric c) = false := by
    intro c hc
    rw [List.all_eq_true.mp h.letters c hc, Bool.not_true]
  have hsome : (title ++ first).isEmpty = false := by
    have hne : title ≠ [] := fun hnil => h.tail_ne_nil (by rw [hnil, List.tail_nil])
    rw [List.isEmpty_eq_false_iff]
    exact List.append_ne_nil_of_left_ne_nil hne first
  have hwords : ∃ rest, words (title ++ s) = (title ++ more) :: rest := by
    rw [words, pieces_append_of_forall_not hletters hpieces, List.flatMap_cons, hsome, hhumps]
    exact ⟨_, rfl⟩
  obtain ⟨rest, hwords⟩ := hwords
  rw [snakeCase, hwords, List.map_cons, lowerWord_append h.sigma]
  cases rest.map lowerWord with
  | nil => exact ⟨lowerWord more, List.intercalate_singleton⟩
  | cons next rest =>
    refine ⟨lowerWord more ++ ['_'] ++ ['_'].intercalate (next :: rest), ?_⟩
    rw [List.intercalate_cons_cons, List.append_assoc, List.append_assoc, List.append_assoc]

end Text

namespace Name

open Text

theorem isTitle_word (verb : Verb) : IsTitle verb.word.toList := by
  constructor <;> cases verb <;> decide

theorem flatMap_toLowercase_word (verb : Verb) :
    verb.word.toList.flatMap toLowercase = verb.member.toList := by
  cases verb <;> decide

/-- No keyword begins with a verb. -/
theorem not_prefix_keyword (verb : Verb) :
    ∀ k ∈ rawableKeywords ++ pathKeywords, ¬ verb.member.toList <+: k.toList := by
  cases verb <;> decide

theorem beginsWithDigit_member (verb : Verb) (s : List Char) :
    beginsWithDigit (verb.member.toList ++ s) = false := by
  have hmember : verb.member.toList ≠ [] ∧ beginsWithDigit verb.member.toList = false := by
    cases verb <;> decide
  rw [beginsWithDigit_append_left hmember.1, hmember.2]

/-- The identifier of a name that begins with a verb begins with it in small letters. -/
theorem exists_snakeIdent_verb (verb : Verb) (s : String) :
    ∃ rest, snakeIdent (verb.word ++ s) = verb.member ++ rest := by
  obtain ⟨rest, hsnake⟩ := exists_snakeCase_title (isTitle_word verb) s.toList
  rw [flatMap_toLowercase_word, ← String.toList_append] at hsnake
  have hguard : guardDigit (verb.member.toList ++ rest) = verb.member.toList ++ rest := by
    rw [guardDigit, beginsWithDigit_member, if_neg Bool.false_ne_true]
  have hfree : String.ofList (verb.member.toList ++ rest) ∉ rawableKeywords ++ pathKeywords := by
    intro hmem
    refine not_prefix_keyword verb _ hmem ?_
    rw [String.toList_ofList]
    exact List.prefix_append verb.member.toList rest
  have hsome : verb.member.toList ++ rest ≠ [] := by
    apply List.append_ne_nil_of_left_ne_nil
    cases verb <;> decide
  rw [List.mem_append, not_or] at hfree
  refine ⟨String.ofList rest, ?_⟩
  rw [snakeIdent_eq, hsnake, if_neg hsome, hguard, escapeKeyword,
    if_neg (List.contains_iff_mem.not.mpr hfree.2), if_neg (List.contains_iff_mem.not.mpr hfree.1),
    String.ofList_append, String.ofList_toList]

theorem exists_candidate_verb (verb : Verb) (s : String) (n : Nat) :
    ∃ rest, candidate (snakeIdent (verb.word ++ s)) n = verb.member ++ rest := by
  obtain ⟨rest, heq⟩ := exists_snakeIdent_verb verb s
  cases n with
  | zero => exact ⟨rest, heq⟩
  | succ n => exact ⟨rest ++ toString (n + 2), by rw [candidate, heq, String.append_assoc]⟩

end Name

end ApiForge
