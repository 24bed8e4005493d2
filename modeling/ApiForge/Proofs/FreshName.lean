import ApiForge.Name.Fresh
import Mathlib.Data.List.Nodup
import Mathlib.Data.List.Perm.Subperm
import Mathlib.Tactic.Common

/-!
Names for things that want the same one. The candidates for a wanted name all differ, so among one
more of them than there are used names one is free, and the search among that many finds it. Main
statements: the name that is found is not used (`freshBy_notMem`), and names that are given out one
after the other are all different (`nodup_freshAll`).
-/

namespace ApiForge.Name

theorem toList_toString_ne_nil (n : Nat) : (toString n).toList ≠ [] := by
  rw [Nat.toString_eq_repr, Nat.toList_repr]
  exact Nat.toDigits_ne_nil

/-- The digits of a number read back as the number. -/
theorem ofDigitChars_toString (n : Nat) : Nat.ofDigitChars 10 (toString n).toList 0 = n := by
  rw [Nat.toString_eq_repr, Nat.toList_repr, Nat.ofDigitChars_ten_toDigits]

theorem toList_candidate_succ (wanted : String) (n : Nat) :
    (candidate wanted (n + 1)).toList = wanted.toList ++ (toString (n + 2)).toList :=
  String.toList_append

theorem head?_candidate {wanted : String} (hne : wanted.toList ≠ []) (n : Nat) :
    (candidate wanted n).toList.head? = wanted.toList.head? := by
  cases n with
  | zero => rfl
  | succ n => rw [toList_candidate_succ, List.head?_append_of_ne_nil _ hne]

theorem isDigit_of_mem_toString {n : Nat} {c : Char} (h : c ∈ (toString n).toList) :
    c.isDigit = true := by
  rw [Nat.toString_eq_repr, Nat.toList_repr] at h
  exact Nat.isDigit_of_mem_toDigits (by decide) (by decide) h

/-- Names with the numbers from 2 on behind a fixed beginning differ from each other. -/
theorem injective_of_numbered {name : Nat → String} {stem : List Char}
    (hnumbered : ∀ n, (name (n + 1)).toList = stem ++ (toString (n + 2)).toList)
    (hzero : ∀ n, name 0 ≠ name (n + 1)) : Function.Injective name := by
  intro m n h
  cases m with
  | zero =>
    cases n with
    | zero => rfl
    | succ n => exact absurd h (hzero n)
  | succ m =>
    cases n with
    | zero => exact absurd h.symm (hzero m)
    | succ n =>
      have hlist := congrArg String.toList h
      rw [hnumbered, hnumbered] at hlist
      have hnumber : m + 2 = n + 2 := by
        rw [← ofDigitChars_toString (m + 2), List.append_cancel_left hlist, ofDigitChars_toString]
      omega

theorem candidate_injective (wanted : String) : Function.Injective (candidate wanted) := by
  refine injective_of_numbered (toList_candidate_succ wanted) fun n h => ?_
  have hlist := congrArg String.toList h
  rw [toList_candidate_succ] at hlist
  exact toList_toString_ne_nil (n + 2) (List.self_eq_append_right.mp hlist)

section Search

variable {used : List String} {image : String → String} {wanted : String}

/-- Where the search ends at a used name, every candidate on the way was used. -/
theorem mem_used_of_searchFresh {tries n : Nat}
    (h : image (searchFresh used image wanted tries n) ∈ used) :
    ∀ k ≤ tries, image (candidate wanted (n + k)) ∈ used := by
  induction tries generalizing n with
  | zero =>
    intro k hk
    obtain rfl : k = 0 := by omega
    exact h
  | succ tries ih =>
    rw [searchFresh] at h
    split at h
    · next hused =>
      intro k hk
      cases k with
      | zero => exact List.contains_iff_mem.mp hused
      | succ k =>
        have hlater := ih h k (by omega)
        rwa [Nat.add_assoc, Nat.add_comm 1] at hlater
    · next hfree => exact absurd (List.contains_iff_mem.mpr h) hfree

/-- The name that is found is the first candidate whose image is not used, if one is found. -/
theorem exists_first_searchFresh (tries n : Nat) :
    ∃ k, searchFresh used image wanted tries n = candidate wanted (n + k) ∧
      ∀ j < k, image (candidate wanted (n + j)) ∈ used := by
  induction tries generalizing n with
  | zero => exact ⟨0, rfl, nofun⟩
  | succ tries ih =>
    rw [searchFresh]
    split
    · next hused =>
      obtain ⟨k, hk, hbefore⟩ := ih (n + 1)
      refine ⟨k + 1, ?_, fun j hj => ?_⟩
      · rw [hk, Nat.add_assoc, Nat.add_comm 1]
      · cases j with
        | zero => exact List.contains_iff_mem.mp hused
        | succ j =>
          have hj' := hbefore j (by omega)
          rwa [Nat.add_assoc, Nat.add_comm 1] at hj'
    · exact ⟨0, rfl, nofun⟩

/-- When the images of the candidates differ, that of the name found is not used. -/
theorem freshBy_notMem (himage : Function.Injective fun n => image (candidate wanted n)) :
    image (freshBy used image wanted) ∉ used := by
  intro h
  have hall := mem_used_of_searchFresh h
  -- More candidates than used names, all of them different, cannot all be used.
  have hnodup : ((List.range (used.length + 1)).map fun n => image (candidate wanted n)).Nodup :=
    List.nodup_range.map himage
  have hsubset :
      ((List.range (used.length + 1)).map fun n => image (candidate wanted n)) ⊆ used := by
    intro name hname
    obtain ⟨k, hk, rfl⟩ := List.mem_map.mp hname
    rw [List.mem_range] at hk
    simpa using hall k (by omega)
  have hle := (hnodup.subperm hsubset).length_le
  rw [List.length_map, List.length_range] at hle
  omega

end Search

theorem fresh_notMem (used : List String) (wanted : String) : fresh used wanted ∉ used :=
  @freshBy_notMem used id wanted (candidate_injective wanted)

theorem exists_candidate_fresh (used : List String) (wanted : String) :
    ∃ k, fresh used wanted = candidate wanted k :=
  let ⟨k, hk, _⟩ := exists_first_searchFresh used.length 0
  ⟨0 + k, hk⟩

theorem length_freshAll (used wanted : List String) :
    (freshAll used wanted).length = wanted.length := by
  induction wanted generalizing used with
  | nil => rfl
  | cons w rest ih => rw [freshAll, List.length_cons, ih, List.length_cons]

theorem nodup_freshAll (used wanted : List String) :
    (freshAll used wanted).Nodup ∧ ∀ name ∈ freshAll used wanted, name ∉ used := by
  induction wanted generalizing used with
  | nil => exact ⟨.nil, nofun⟩
  | cons w rest ih =>
    obtain ⟨hnodup, hfree⟩ := ih (fresh used w :: used)
    rw [freshAll]
    refine ⟨List.nodup_cons.mpr ⟨fun hmem => hfree _ hmem List.mem_cons_self, hnodup⟩, ?_⟩
    intro name hname
    rcases List.mem_cons.mp hname with rfl | hname
    · exact fresh_notMem used w
    · exact fun hused => hfree name hname (List.mem_cons_of_mem _ hused)

/-- Every name that is given out is a candidate for one that was wanted. -/
theorem exists_candidate_of_mem_freshAll {used wanted : List String} {name : String}
    (h : name ∈ freshAll used wanted) : ∃ w ∈ wanted, ∃ k, name = candidate w k := by
  induction wanted generalizing used with
  | nil => cases h
  | cons w rest ih =>
    rcases List.mem_cons.mp h with rfl | h
    · obtain ⟨k, hk⟩ := exists_candidate_fresh used w
      exact ⟨w, List.mem_cons_self, k, hk⟩
    · obtain ⟨v, hv, hname⟩ := ih h
      exact ⟨v, List.mem_cons_of_mem _ hv, hname⟩

end ApiForge.Name
