import ApiForge.Proofs.FieldNames

/-!
Fields that bear the name of the type they belong to. A property that wants this name gets another
one, and a number behind that never leads back to it. But a number behind a name that is taken can
make the name of the type, as with the second property that wants `Item` in a type `Item2`. Main
statement: that is the only way in which a field comes to bear it (`ownerName_free_iff`).
-/

namespace ApiForge

namespace Name

theorem candidate_succ (wanted : String) (n : Nat) :
    candidate wanted (n + 1) = wanted ++ toString (n + 2) := rfl

theorem append_ne_self {s t : String} (h : t ≠ "") : s ++ t ≠ s := by
  intro heq
  have hlist := congrArg String.toList heq
  rw [String.toList_append] at hlist
  exact h (String.toList_eq_nil_iff.mp (List.append_right_eq_self.mp hlist))

/-- A name with an ending has no candidate without it. -/
theorem candidate_append_ne {s t : String} (h : t ≠ "") (n : Nat) : candidate (s ++ t) n ≠ s := by
  cases n with
  | zero => exact append_ne_self h
  | succ n =>
    rw [candidate_succ, String.append_assoc]
    apply append_ne_self
    intro hempty
    exact h (String.append_eq_empty_iff.mp hempty).1

/-- The first free candidate is the one that is free and has only taken ones before it. -/
theorem FirstFree.eq_candidate_iff {used : List String} {wanted name : String}
    (h : FirstFree used wanted name) (n : Nat) :
    name = candidate wanted n ↔ snakeIdent (candidate wanted n) ∉ used ∧
      ∀ k < n, snakeIdent (candidate wanted k) ∈ used := by
  obtain ⟨m, hm, hfree, hbefore⟩ := h
  rw [hm] at hfree
  constructor
  · intro hn
    obtain rfl : m = n := candidate_injective wanted (hm.symm.trans hn)
    exact ⟨hfree, hbefore⟩
  · rintro ⟨hnfree, hnbefore⟩
    rcases Nat.lt_trichotomy m n with hlt | rfl | hlt
    · exact absurd (hnbefore m hlt) hfree
    · exact hm
    · exact absurd (hbefore n hlt) hnfree

end Name

namespace Resolving

open Name

/-- A property whose name is taken, and whose number makes it the name of the owner: all candidates
before are taken, and the name of the owner is not. -/
def NumberedInto (owner : String) (used : List String) (wire : String) : Prop :=
  ∃ n, fieldName wire ++ toString (n + 2) = owner ∧ snakeIdent owner ∉ used ∧
    ∀ k ≤ n, snakeIdent (candidate (fieldName wire) k) ∈ used

/-- The first free name for a property is that of the owner only through a number. -/
theorem bears_owner_iff {owner wire name : String} {used : List String}
    (h : FirstFree used (wantedName owner wire) name) :
    name = owner ↔ NumberedInto owner used wire := by
  by_cases hsame : fieldName wire = owner
  · -- The suffix keeps all candidates off the name, and no number makes a name of itself.
    rw [wantedName, if_pos hsame, hsame] at h
    constructor
    · rintro rfl
      obtain ⟨n, hn, -, -⟩ := h
      exact absurd hn.symm (candidate_append_ne (by decide) n)
    · rintro ⟨n, hn, -, -⟩
      rw [hsame] at hn
      exact absurd hn (append_ne_self (mt String.toList_eq_nil_iff.mpr (toList_toString_ne_nil _)))
  · rw [wantedName, if_neg hsame] at h
    constructor
    · rintro rfl
      obtain ⟨n, hn, hfree, hbefore⟩ := h
      cases n with
      | zero => exact absurd hn.symm hsame
      | succ n => exact ⟨n, hn.symm, hfree, fun k hk => hbefore k (Nat.lt_succ_of_le hk)⟩
    · rintro ⟨n, rfl, hfree, hbefore⟩
      rw [← candidate_succ] at hfree ⊢
      exact (h.eq_candidate_iff (n + 1)).mpr
        ⟨hfree, fun k hk => hbefore k (Nat.le_of_lt_succ hk)⟩

/-- The fields of a type keep off its name exactly when no property is numbered into it. -/
theorem ownerName_free_iff (owner : String) (schema : Schema) :
    Returns (fields owner schema) fun fs =>
      (∀ f ∈ fs, f.name ≠ owner) ↔
        ∀ before f after, fs = before ++ f :: after →
          ¬ NumberedInto owner (before.map (·.ident)) f.wireName := by
  intro s fs hfs
  obtain ⟨-, -, hnamed⟩ := returns_fields owner schema s fs hfs
  have hfirst : ∀ before f after, fs = before ++ f :: after →
      (f.name = owner ↔ NumberedInto owner (before.map (·.ident)) f.wireName) := by
    intro before f after heq
    exact bears_owner_iff (hnamed.firstFree before f after heq)
  constructor
  · intro hfree before f after heq hnumbered
    refine hfree f ?_ ((hfirst before f after heq).mpr hnumbered)
    rw [heq]
    exact List.mem_append_right before List.mem_cons_self
  · intro hnone f hf hname
    obtain ⟨before, after, heq⟩ := List.append_of_mem hf
    exact hnone before f after heq ((hfirst before f after heq).mp hname)

/-- A name without a digit at its end is made by no number. -/
theorem not_numberedInto_of_letter {owner : String} (h : endsInDigit owner = false)
    (used : List String) (wire : String) : ¬ NumberedInto owner used wire := by
  rintro ⟨n, rfl, -, -⟩
  have hends : endsInDigit (fieldName wire ++ toString (n + 2)) = true :=
    endsInDigit_candidate_succ (fieldName wire) n
  rw [h] at hends
  cases hends

theorem ticketSchema_keepsOff :
    ∃ fs found, (fields "Ticket" ticketSchema).outcome = .ok (fs, found) ∧
      fs.map (·.wireName) = ["user-name", "userName", "match", "1st", "Ticket", "!"] ∧
      ∀ f ∈ fs, f.name ≠ "Ticket" := by
  have hwires : (fields "Ticket" ticketSchema).outcome.toOption.map
      (fun r => r.1.map (·.wireName)) =
        some ["user-name", "userName", "match", "1st", "Ticket", "!"] := by
    decide
  cases houtcome : (fields "Ticket" ticketSchema).outcome with
  | error p =>
    rw [houtcome] at hwires
    cases hwires
  | ok r =>
    obtain ⟨fs, found⟩ := r
    rw [houtcome] at hwires
    refine ⟨fs, found, rfl, Option.some.inj hwires, ?_⟩
    refine ((ownerName_free_iff "Ticket" ticketSchema).of_outcome houtcome).mpr ?_
    exact fun before f after _ => not_numberedInto_of_letter (by decide) _ f.wireName

def itemTwice : Schema :=
  .node {} (.object (["item", "Item"].map fun name =>
    (name, .node {} (.primitive "string" none))) [])

/-- In a type that has this name with the number two, the second of them bears its name. -/
theorem itemTwice_bearsOwner :
    (fields "Item2" itemTwice).outcome.toOption.map (fun r => r.1.map (·.name)) =
        some ["Item", "Item2"] ∧
      ¬ Returns (fields "Item2" itemTwice) fun fs => ∀ f ∈ fs, f.name ≠ "Item2" := by
  have hnames : (fields "Item2" itemTwice).outcome.toOption.map (fun r => r.1.map (·.name)) =
      some ["Item", "Item2"] := by
    decide
  refine ⟨hnames, fun hfree => ?_⟩
  cases houtcome : (fields "Item2" itemTwice).outcome with
  | error p =>
    rw [houtcome] at hnames
    cases hnames
  | ok r =>
    obtain ⟨fs, found⟩ := r
    rw [houtcome] at hnames
    have hfs : fs.map (·.name) = ["Item", "Item2"] := Option.some.inj hnames
    have hmem : "Item2" ∈ fs.map (·.name) := by
      rw [hfs]
      decide
    obtain ⟨f, hf, hname⟩ := List.mem_map.mp hmem
    exact hfree.of_outcome houtcome f hf hname

end Resolving

end ApiForge
