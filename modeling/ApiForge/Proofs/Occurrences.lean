import Mathlib.Data.List.Induction
import Mathlib.Data.List.Nodup

/-!
First and last occurrences in a list. A look-up, or what is found first, needs only the first
occurrence of each element. Main statement: the last element of a kind is also the newest one,
unless an element of that kind comes again and is not the only one (`findRev?_eraseDups`).
-/

namespace ApiForge

variable {α β : Type} [DecidableEq α]

theorem eraseDups_concat (l : List α) (a : α) :
    (l ++ [a]).eraseDups = if a ∈ l then l.eraseDups else l.eraseDups ++ [a] := by
  rw [List.eraseDups_append]
  by_cases h : a ∈ l <;> simp [List.removeAll, List.eraseDups_cons, h]

theorem findSome?_eraseDups (f : α → Option β) (l : List α) :
    l.eraseDups.findSome? f = l.findSome? f := by
  induction l using List.reverseRecOn with
  | nil => rfl
  | append_singleton l a ih =>
    rw [eraseDups_concat, List.findSome?_append]
    split
    · next h =>
      rw [ih]
      cases hl : l.findSome? f with
      | some b => rfl
      | none => simp [List.findSome?_eq_none_iff.mp hl a h]
    · rw [List.findSome?_append, ih]

theorem find?_eraseDups (q : α → Bool) (l : List α) : l.eraseDups.find? q = l.find? q := by
  rw [List.find?_eq_findSome?_guard, List.find?_eq_findSome?_guard, findSome?_eraseDups]

/-- The first occurrences of what comes of a list need only its first occurrences. -/
theorem eraseDups_filterMap_eraseDups [DecidableEq β] (f : α → Option β) (l : List α) :
    (l.eraseDups.filterMap f).eraseDups = (l.filterMap f).eraseDups := by
  induction l using List.reverseRecOn with
  | nil => rfl
  | append_singleton l a ih =>
    rw [eraseDups_concat, List.filterMap_append]
    cases ha : f a with
    | none =>
      rw [List.filterMap_cons_none ha, List.filterMap_nil, List.append_nil]
      split
      · exact ih
      · rw [List.filterMap_append, List.filterMap_cons_none ha, List.filterMap_nil,
          List.append_nil, ih]
    | some b =>
      rw [List.filterMap_cons_some ha, List.filterMap_nil, eraseDups_concat, ← ih]
      have hmem : b ∈ l.eraseDups.filterMap f ↔ b ∈ l.filterMap f := by
        simp [List.mem_filterMap]
      split
      · next h => rw [if_pos (List.mem_filterMap.mpr ⟨a, h, ha⟩)]
      · rw [List.filterMap_append, List.filterMap_cons_some ha, List.filterMap_nil,
          eraseDups_concat]
        simp only [hmem]

omit [DecidableEq α] in
theorem findRev?_concat (q : α → Bool) (l : List α) (a : α) :
    (l ++ [a]).findRev? q = if q a then some a else l.findRev? q := by
  rw [List.findRev?_eq_find?_reverse, List.findRev?_eq_find?_reverse, List.reverse_append,
    List.reverse_singleton, List.singleton_append, List.find?_cons]
  cases q a <;> rfl

theorem nodup_eraseDups (l : List α) : l.eraseDups.Nodup := by
  induction l using List.reverseRecOn with
  | nil => exact .nil
  | append_singleton l a ih =>
    rw [eraseDups_concat]
    split
    · exact ih
    · next h =>
      rw [← List.mem_eraseDups] at h
      exact (List.concat_eq_append ▸ ih.concat h)

theorem eraseDups_eq_self {l : List α} (h : l.Nodup) : l.eraseDups = l := by
  induction l using List.reverseRecOn with
  | nil => rfl
  | append_singleton l a ih =>
    rw [← List.concat_eq_append, List.nodup_concat] at h
    rw [eraseDups_concat, if_neg h.1, ih h.2]

/-- The last element of a kind is also the newest one, unless an element of that kind comes again
and is not the only one. -/
theorem findRev?_eraseDups {q : α → Bool} {l : List α}
    (h : ∀ a ∈ l, ∀ b ∈ l, q a → q b → b ≠ a → l.count a = 1) :
    l.eraseDups.findRev? q = l.findRev? q := by
  induction l using List.reverseRecOn with
  | nil => rfl
  | append_singleton l a ih =>
    have hrest : l.eraseDups.findRev? q = l.findRev? q := by
      refine ih fun b hb c hc hqb hqc hne => ?_
      have hcount := h b (List.mem_append_left _ hb) c (List.mem_append_left _ hc) hqb hqc hne
      have hone : 0 < l.count b := List.count_pos_iff.mpr hb
      rw [List.count_append] at hcount
      omega
    rw [eraseDups_concat, findRev?_concat]
    split
    · next hmem =>
      split
      · next hqa =>
        -- It came before, so it is the only one of its kind.
        have honly : ∀ b ∈ l, q b → b = a := by
          intro b hb hqb
          by_contra hne
          have hcount := h a (List.mem_append_left _ hmem) b (List.mem_append_left _ hb) hqa hqb hne
          have hone : 0 < l.count a := List.count_pos_iff.mpr hmem
          rw [List.count_append, List.count_singleton_self] at hcount
          omega
        have hsome : (l.eraseDups.reverse.find? q).isSome = true :=
          List.find?_isSome.mpr ⟨a, List.mem_reverse.mpr (List.mem_eraseDups.mpr hmem), hqa⟩
        obtain ⟨b, hb⟩ := Option.isSome_iff_exists.mp hsome
        have hbmem : b ∈ l :=
          List.mem_eraseDups.mp (List.mem_reverse.mp (List.mem_of_find?_eq_some hb))
        rw [List.findRev?_eq_find?_reverse, hb, honly b hbmem (List.find?_some hb)]
      · exact hrest
    · rw [findRev?_concat, hrest]

end ApiForge
