import ApiForge.Entries
import ApiForge.Proofs.Occurrences

/-!
Ordered tables that are built one pair after the other. A later pair of the same key replaces an
earlier one, so what is left of a list of pairs are the lasting ones, those that no later pair
replaces. Main statements: the table is a permutation of the lasting pairs (`putAll_perm_lasting`),
and it has as many entries as there were pairs exactly when no key came twice.
-/

namespace ApiForge.Entries

variable {α β : Type}

@[simp] theorem keys_nil : keys ([] : Entries α) = [] := rfl

@[simp] theorem keys_cons (p : String × α) (t : Entries α) : keys (p :: t) = p.1 :: keys t := rfl

@[simp] theorem keys_append (t u : Entries α) : keys (t ++ u) = keys t ++ keys u :=
  List.map_append

theorem mem_keys_of_mem {t : Entries α} {p : String × α} (h : p ∈ t) : p.1 ∈ keys t :=
  List.mem_map_of_mem h

@[simp] theorem get?_nil (key : String) : get? ([] : Entries α) key = none := rfl

theorem get?_cons (p : String × α) (t : Entries α) (key : String) :
    get? (p :: t) key = if key = p.1 then some p.2 else get? t key := by
  obtain ⟨k, v⟩ := p
  by_cases h : key = k
  · simp [get?, h]
  · have hne : (key == k) = false := beq_eq_false_iff_ne.mpr h
    simp [get?, List.lookup_cons, hne, h]

theorem mem_of_get? {t : Entries α} {key : String} {value : α} (h : get? t key = some value) :
    (key, value) ∈ t := by
  induction t with
  | nil => simp at h
  | cons p t ih =>
    rw [get?_cons] at h
    split at h
    · next hk =>
      cases h
      rw [hk]
      exact List.mem_cons_self
    · exact List.mem_cons_of_mem _ (ih h)

theorem get?_eq_none_iff {t : Entries α} {key : String} : get? t key = none ↔ key ∉ keys t := by
  induction t with
  | nil => simp
  | cons p t ih =>
    rw [get?_cons]
    by_cases h : key = p.1 <;> simp [h, ih]

theorem get?_eq_some_iff {t : Entries α} (ht : (keys t).Nodup) {key : String} {value : α} :
    get? t key = some value ↔ (key, value) ∈ t := by
  refine ⟨mem_of_get?, fun h => ?_⟩
  induction t with
  | nil => simp at h
  | cons p t ih =>
    rw [keys_cons, List.nodup_cons] at ht
    rw [get?_cons]
    rcases List.mem_cons.mp h with rfl | h
    · simp
    · have hk : key ≠ p.1 := fun he => ht.1 (he ▸ mem_keys_of_mem h)
      rw [if_neg hk]
      exact ih ht.2 h

theorem get?_perm {t u : Entries α} (h : t.Perm u) (ht : (keys t).Nodup) (key : String) :
    get? t key = get? u key := by
  have hu : (keys u).Nodup := (h.map Prod.fst).nodup_iff.mp ht
  refine Option.ext fun value => ?_
  rw [get?_eq_some_iff ht, get?_eq_some_iff hu]
  exact h.mem_iff

/-- A table in which no key comes twice is settled by its keys in order and what they hold. -/
theorem eq_of_keys_of_get? {t u : Entries α} (ht : (keys t).Nodup) (hkeys : keys t = keys u)
    (hget : ∀ key ∈ keys t, get? t key = get? u key) : t = u := by
  induction t generalizing u with
  | nil => cases u with
    | nil => rfl
    | cons q u => simp at hkeys
  | cons p t ih =>
    cases u with
    | nil => simp at hkeys
    | cons q u =>
      obtain ⟨k, v⟩ := p
      obtain ⟨l, w⟩ := q
      rw [keys_cons, keys_cons, List.cons.injEq] at hkeys
      obtain ⟨rfl, hkeys⟩ := hkeys
      rw [keys_cons, List.nodup_cons] at ht
      have hvalue : v = w := by simpa [get?_cons] using hget k List.mem_cons_self
      have hrest : t = u := by
        refine ih ht.2 hkeys fun key hkey => ?_
        have hne : key ≠ k := fun h => ht.1 (h ▸ hkey)
        simpa [get?_cons, hne] using hget key (List.mem_cons_of_mem _ hkey)
      rw [hvalue, hrest]

/-! Putting one pair. -/

@[simp] theorem put_nil (key : String) (value : α) : put key value [] = [(key, value)] := rfl

theorem put_cons (key : String) (value : α) (k : String) (v : α) (t : Entries α) :
    put key value ((k, v) :: t) = if k = key then (k, value) :: t else (k, v) :: put key value t :=
  rfl

theorem put_of_notMem {key : String} {value : α} {t : Entries α} (h : key ∉ keys t) :
    put key value t = t ++ [(key, value)] := by
  induction t with
  | nil => rfl
  | cons p t ih =>
    obtain ⟨k, v⟩ := p
    rw [keys_cons, List.mem_cons, not_or] at h
    rw [put_cons, if_neg (Ne.symm h.1), ih h.2, List.cons_append]

theorem keys_put (key : String) (value : α) (t : Entries α) :
    keys (put key value t) = if key ∈ keys t then keys t else keys t ++ [key] := by
  induction t with
  | nil => rfl
  | cons p t ih =>
    obtain ⟨k, v⟩ := p
    by_cases hk : k = key
    · simp [put_cons, hk]
    · rw [put_cons, if_neg hk, keys_cons, ih, keys_cons]
      by_cases hm : key ∈ keys t <;> simp [hm, Ne.symm hk]

theorem mem_keys_put {key other : String} {value : α} {t : Entries α} :
    other ∈ keys (put key value t) ↔ other = key ∨ other ∈ keys t := by
  rw [keys_put]
  split
  · next h =>
    constructor
    · exact Or.inr
    · rintro (rfl | ho)
      · exact h
      · exact ho
  · rw [List.mem_append, List.mem_singleton, or_comm]

theorem nodup_keys_put {t : Entries α} (ht : (keys t).Nodup) (key : String) (value : α) :
    (keys (put key value t)).Nodup := by
  rw [keys_put]
  split
  · exact ht
  · next h => simpa using ht.concat h

/-- What holds of all values holds of them when another such value is put. -/
theorem forall_mem_put {P : α → Prop} {t : Entries α} (ht : ∀ p ∈ t, P p.2) {value : α}
    (hvalue : P value) (key : String) : ∀ p ∈ put key value t, P p.2 := by
  induction t with
  | nil => exact List.forall_mem_singleton.mpr hvalue
  | cons p t ih =>
    obtain ⟨k, v⟩ := p
    rw [List.forall_mem_cons] at ht
    rw [put_cons]
    split
    · exact List.forall_mem_cons.mpr ⟨hvalue, ht.2⟩
    · exact List.forall_mem_cons.mpr ⟨ht.1, ih ht.2⟩

theorem get?_put (key other : String) (value : α) (t : Entries α) :
    get? (put key value t) other = if other = key then some value else get? t other := by
  induction t with
  | nil => rw [put_nil, get?_cons]
  | cons p t ih =>
    obtain ⟨k, v⟩ := p
    rw [put_cons]
    by_cases hk : k = key
    · rw [if_pos hk, get?_cons, get?_cons, hk]
      by_cases ho : other = key <;> simp [ho]
    · rw [if_neg hk, get?_cons, get?_cons, ih]
      by_cases ho : other = k
      · rw [if_pos ho, if_pos ho, if_neg fun h => hk (ho.symm.trans h)]
      · rw [if_neg ho, if_neg ho]

theorem put_perm {t : Entries α} (ht : (keys t).Nodup) (key : String) (value : α) :
    List.Perm (put key value t) ((key, value) :: t.filter fun p => p.1 ≠ key) := by
  induction t with
  | nil => exact .refl _
  | cons p t ih =>
    obtain ⟨k, v⟩ := p
    rw [keys_cons, List.nodup_cons] at ht
    by_cases hk : k = key
    · have hrest : t.filter (fun p => p.1 ≠ key) = t := by
        rw [List.filter_eq_self]
        intro q hq
        have hmem : q.1 ∈ keys t := mem_keys_of_mem hq
        have hne : q.1 ≠ key := fun h => ht.1 (hk ▸ h ▸ hmem)
        simpa using hne
      rw [put_cons, if_pos hk, List.filter_cons_of_neg (by simpa using hk), hrest, hk]
    · rw [put_cons, if_neg hk, List.filter_cons_of_pos (by simpa using hk)]
      exact ((ih ht.2).cons (k, v)).trans (.swap ..)

/-! Putting a list of pairs. -/

@[simp] theorem putAll_nil (t : Entries α) : putAll t [] = t := rfl

@[simp] theorem putAll_cons (t : Entries α) (p : String × α) (l : List (String × α)) :
    putAll t (p :: l) = putAll (put p.1 p.2 t) l := rfl

theorem ofPairs_eq (l : List (String × α)) : ofPairs l = putAll [] l := rfl

theorem putAll_append (t : Entries α) (l m : List (String × α)) :
    putAll t (l ++ m) = putAll (putAll t l) m :=
  List.foldl_append

theorem mem_keys_putAll {t : Entries α} {l : List (String × α)} {key : String} :
    key ∈ keys (putAll t l) ↔ key ∈ keys t ∨ key ∈ keys l := by
  induction l generalizing t with
  | nil => simp
  | cons p l ih =>
    rw [putAll_cons, ih, mem_keys_put, keys_cons, List.mem_cons, or_comm (a := key = p.1), or_assoc]

theorem nodup_keys_putAll {t : Entries α} (ht : (keys t).Nodup) (l : List (String × α)) :
    (keys (putAll t l)).Nodup := by
  induction l generalizing t with
  | nil => exact ht
  | cons p l ih => exact ih (nodup_keys_put ht p.1 p.2)

/-- Pairs with keys that are new and differ end up in the table one after the other. -/
theorem putAll_of_notMem {t : Entries α} {l : List (String × α)} (hl : (keys l).Nodup)
    (hnew : ∀ key ∈ keys l, key ∉ keys t) : putAll t l = t ++ l := by
  induction l generalizing t with
  | nil => simp
  | cons p l ih =>
    rw [keys_cons, List.nodup_cons] at hl
    have hp : p.1 ∉ keys t := hnew _ List.mem_cons_self
    have hrest : ∀ key ∈ keys l, key ∉ keys (t ++ [(p.1, p.2)]) := by
      intro key hkey hmem
      rw [keys_append, List.mem_append] at hmem
      rcases hmem with hmem | hmem
      · exact hnew key (List.mem_cons_of_mem _ hkey) hmem
      · exact hl.1 (List.mem_singleton.mp hmem ▸ hkey)
    rw [putAll_cons, put_of_notMem hp, ih hl.2 hrest, List.append_assoc, List.singleton_append]

theorem putAll_of_nodup {t : Entries α} {l : List (String × α)} (h : (keys (t ++ l)).Nodup) :
    putAll t l = t ++ l := by
  rw [keys_append, List.nodup_append] at h
  exact putAll_of_notMem h.2.1 fun key hkey hmem => h.2.2 key hmem key hkey rfl

theorem putAll_concat (t : Entries α) (l : List (String × α)) (p : String × α) :
    putAll t (l ++ [p]) = put p.1 p.2 (putAll t l) := by
  rw [putAll_append]
  rfl

theorem keys_putAll (l : List (String × α)) : keys (putAll [] l) = (keys l).eraseDups := by
  induction l using List.reverseRecOn with
  | nil => rfl
  | append_singleton l p ih =>
    have hkeys : keys (l ++ [p]) = keys l ++ [p.1] := by simp
    rw [putAll_concat, keys_put, ih, hkeys, eraseDups_concat]
    simp only [List.mem_eraseDups]

theorem get?_putAll (l : List (String × α)) (key : String) :
    get? (putAll [] l) key = (l.findRev? (·.1 == key)).map (·.2) := by
  induction l using List.reverseRecOn with
  | nil => rfl
  | append_singleton l p ih =>
    rw [putAll_concat, get?_put, ih, findRev?_concat]
    by_cases h : p.1 = key
    · rw [if_pos h.symm, if_pos (beq_iff_eq.mpr h), Option.map_some]
    · rw [if_neg (Ne.symm h), if_neg (mt beq_iff_eq.mp h)]

/-- The last entry of a kind, by the last key of that kind. -/
theorem findRev?_keys {t : Entries α} (ht : t.keys.Nodup) (q : String → Bool) :
    (t.findRev? fun m => q m.1).map (·.2) = (t.keys.findRev? q).bind t.get? := by
  rw [List.findRev?_eq_find?_reverse, List.findRev?_eq_find?_reverse, keys, ← List.map_reverse,
    List.find?_map]
  change _ = ((t.reverse.find? fun m => q m.1).map Prod.fst).bind t.get?
  cases h : t.reverse.find? fun m => q m.1 with
  | none => rfl
  | some m =>
    have hmem : m ∈ t := List.mem_reverse.mp (List.mem_of_find?_eq_some h)
    exact ((get?_eq_some_iff ht).mpr hmem).symm

/-- The last pair of a kind is the last one of the last key of that kind. -/
theorem findRev?_of_keys (l : List (String × α)) (q : String → Bool) :
    (l.findRev? fun m => q m.1) =
      ((keys l).findRev? q).bind fun key => l.findRev? (·.1 == key) := by
  induction l using List.reverseRecOn with
  | nil => rfl
  | append_singleton l m ih =>
    rw [keys_append, keys_cons, keys_nil, findRev?_concat, findRev?_concat]
    by_cases hq : q m.1 = true
    · rw [if_pos hq, if_pos hq, Option.bind_some, findRev?_concat, if_pos (beq_self_eq_true m.1)]
    · rw [if_neg hq, if_neg hq, ih]
      refine Option.bind_congr fun key hkey => ?_
      have hqkey : q key = true := by
        rw [List.findRev?_eq_find?_reverse] at hkey
        exact List.find?_some hkey
      have hne : ¬ (m.1 == key) = true := fun heq => hq (beq_iff_eq.mp heq ▸ hqkey)
      rw [findRev?_concat, if_neg hne]

/-- What the table of some pairs holds under the last of its keys of a kind. -/
theorem findRev?_putAll (l : List (String × α)) (q : String → Bool) :
    ((putAll [] l).findRev? fun m => q m.1).map (·.2) =
      ((keys l).eraseDups.findRev? q).bind fun key => (l.findRev? (·.1 == key)).map (·.2) := by
  rw [findRev?_keys (nodup_keys_putAll (t := []) List.nodup_nil l), keys_putAll]
  exact congrArg _ (funext fun key => get?_putAll l key)

/-- The pairs of a list that no later pair of the same key replaces. -/
def lasting : List (String × α) → List (String × α)
  | [] => []
  | p :: rest => if p.1 ∈ keys rest then lasting rest else p :: lasting rest

@[simp] theorem lasting_nil : lasting ([] : List (String × α)) = [] := rfl

theorem lasting_cons (p : String × α) (l : List (String × α)) :
    lasting (p :: l) = if p.1 ∈ keys l then lasting l else p :: lasting l :=
  rfl

theorem lasting_sublist (l : List (String × α)) : (lasting l).Sublist l := by
  induction l with
  | nil => exact .slnil
  | cons p l ih =>
    rw [lasting_cons]
    split
    · exact ih.cons p
    · exact ih.cons_cons p

/-- A list of pairs loses none of them exactly when no key comes twice. -/
theorem length_lasting_eq_iff {l : List (String × α)} :
    (lasting l).length = l.length ↔ (keys l).Nodup := by
  induction l with
  | nil => simp
  | cons p l ih =>
    rw [keys_cons, List.nodup_cons, lasting_cons]
    split
    · next h =>
      have hle := (lasting_sublist l).length_le
      simp only [h, not_true_eq_false, false_and, iff_false, List.length_cons]
      omega
    · next h => simp [h, ih]

/-- What is left of a table and of the pairs put into it. -/
theorem putAll_perm {t : Entries α} (ht : (keys t).Nodup) (l : List (String × α)) :
    List.Perm (putAll t l) (t.filter (fun p => p.1 ∉ keys l) ++ lasting l) := by
  induction l generalizing t with
  | nil => simp
  | cons p l ih =>
    have hput := ((put_perm ht p.1 p.2).filter fun q => decide (q.1 ∉ keys l)).append_right
      (lasting l)
    have htable : (t.filter fun q => q.1 ≠ p.1).filter (fun q => decide (q.1 ∉ keys l)) =
        t.filter fun q => decide (q.1 ∉ keys (p :: l)) := by
      rw [List.filter_filter]
      refine List.filter_congr fun q _ => ?_
      simp [Bool.and_comm]
    refine (ih (nodup_keys_put ht _ _)).trans (hput.trans ?_)
    rw [List.filter_cons, htable, lasting_cons]
    -- The new pair is a lasting one exactly when its key does not come again.
    by_cases hp : p.1 ∈ keys l
    · simp [hp]
    · simp only [hp, not_false_eq_true, decide_true, if_true, if_false]
      exact List.perm_middle.symm

theorem putAll_perm_lasting (l : List (String × α)) :
    List.Perm (putAll [] l) (lasting l) := by
  simpa using putAll_perm (t := []) (by simp) l

/-- A table has as many entries as pairs were put into it exactly when no key came twice. -/
theorem length_putAll_eq_iff {l : List (String × α)} :
    (putAll [] l).length = l.length ↔ (keys l).Nodup := by
  rw [(putAll_perm_lasting l).length_eq, length_lasting_eq_iff]

/-! What the pairs of a list hold, where a pair that is replaced may hold something or nothing. -/

theorem sublist_flatMap_lasting (g : String × α → List β) (l : List (String × α)) :
    ((lasting l).flatMap g).Sublist (l.flatMap g) := by
  induction l with
  | nil => exact .slnil
  | cons p l ih =>
    rw [lasting_cons, List.flatMap_cons]
    split
    · exact ih.trans (List.sublist_append_right _ _)
    · rw [List.flatMap_cons]
      exact (List.Sublist.refl _).append ih

/-- Nothing is lost when the pairs that are replaced hold nothing. -/
theorem flatMap_lasting {g : String × α → List β} {l : List (String × α)}
    (h : l.Pairwise fun p q => g p ≠ [] → p.1 ≠ q.1) : (lasting l).flatMap g = l.flatMap g := by
  induction l with
  | nil => rfl
  | cons p l ih =>
    rw [List.pairwise_cons] at h
    rw [lasting_cons, List.flatMap_cons]
    split
    · next hk =>
      obtain ⟨q, hq, hkey⟩ := List.mem_map.mp hk
      have hnone : g p = [] := by
        by_contra hp
        exact h.1 q hq hp hkey.symm
      rw [hnone, List.nil_append, ih h.2]
    · rw [List.flatMap_cons, ih h.2]

/-- Something is lost when a pair that holds something is replaced. -/
theorem pairwise_of_length_flatMap_lasting {g : String × α → List β} {l : List (String × α)}
    (h : ((lasting l).flatMap g).length = (l.flatMap g).length) :
    l.Pairwise fun p q => g p ≠ [] → p.1 ≠ q.1 := by
  induction l with
  | nil => exact .nil
  | cons p l ih =>
    have hle := (sublist_flatMap_lasting g l).length_le
    rw [lasting_cons, List.flatMap_cons, List.length_append] at h
    rw [List.pairwise_cons]
    split at h
    · have hnone : g p = [] := List.eq_nil_of_length_eq_zero (by omega)
      exact ⟨fun q _ hp => absurd hnone hp, ih (by omega)⟩
    · next hk =>
      rw [List.flatMap_cons, List.length_append] at h
      exact ⟨fun q hq _ he => hk (he ▸ mem_keys_of_mem hq), ih (by omega)⟩

theorem pairwise_of_mem_lasting {g : String × α → List β} {l : List (String × α)} (hl : l.Nodup)
    (h : ∀ p ∈ l, g p ≠ [] → p ∈ lasting l) : l.Pairwise fun p q => g p ≠ [] → p.1 ≠ q.1 := by
  induction l with
  | nil => exact .nil
  | cons p l ih =>
    rw [List.nodup_cons] at hl
    rw [List.pairwise_cons]
    constructor
    · intro q hq hp he
      have hmem := h p List.mem_cons_self hp
      rw [lasting_cons, if_pos (he ▸ mem_keys_of_mem hq)] at hmem
      exact hl.1 ((lasting_sublist l).subset hmem)
    · refine ih hl.2 fun q hq hg => ?_
      have hmem := h q (List.mem_cons_of_mem _ hq) hg
      rw [lasting_cons] at hmem
      split at hmem
      · exact hmem
      · rcases List.mem_cons.mp hmem with rfl | hmem
        · exact absurd hq hl.1
        · exact hmem

/-! Tables whose values are made from those of another. -/

theorem map_put (f : α → β) (key : String) (value : α) (t : Entries α) :
    (put key value t).map (fun p => (p.1, f p.2)) =
      put key (f value) (t.map fun p => (p.1, f p.2)) := by
  induction t with
  | nil => rfl
  | cons p t ih =>
    obtain ⟨k, v⟩ := p
    by_cases hk : k = key
    · simp [put_cons, hk]
    · simp only [put_cons, if_neg hk, List.map_cons, ih]

theorem map_putAll (f : α → β) (t : Entries α) (l : List (String × α)) :
    (putAll t l).map (fun p => (p.1, f p.2)) =
      putAll (t.map fun p => (p.1, f p.2)) (l.map fun p => (p.1, f p.2)) := by
  induction l generalizing t with
  | nil => rfl
  | cons p l ih => rw [putAll_cons, ih, map_put, List.map_cons, putAll_cons]

theorem putAll_cons_of_notMem {p : String × α} {l : List (String × α)} (h : p.1 ∉ keys l)
    (t : Entries α) : putAll (p :: t) l = p :: putAll t l := by
  induction l generalizing t with
  | nil => rfl
  | cons q l ih =>
    obtain ⟨k, v⟩ := p
    rw [keys_cons, List.mem_cons, not_or] at h
    rw [putAll_cons, put_cons, if_neg h.1, ih h.2, putAll_cons]

/-! Replacing values. -/

@[simp] theorem keys_replace (key : String) (value : α) (t : Entries α) :
    keys (replace key value t) = keys t := by
  simp only [keys, replace, List.map_map]
  refine List.map_congr_left fun p _ => ?_
  by_cases h : p.1 = key <;> simp [h]

theorem get?_replace (key other : String) (value : α) (t : Entries α) :
    get? (replace key value t) other =
      if other = key then (get? t other).map fun _ => value else get? t other := by
  induction t with
  | nil => simp [replace]
  | cons p t ih =>
    obtain ⟨k, v⟩ := p
    have hcons : replace key value ((k, v) :: t) =
        (if k = key then (k, value) else (k, v)) :: replace key value t := rfl
    rw [hcons, get?_cons, get?_cons, ih]
    by_cases hk : k = key
    · rw [if_pos hk, hk]
      by_cases ho : other = key <;> simp [ho]
    · rw [if_neg hk]
      by_cases ho : other = k
      · rw [if_pos ho, if_pos ho, if_neg fun h => hk (ho.symm.trans h)]
      · rw [if_neg ho, if_neg ho]

end ApiForge.Entries
