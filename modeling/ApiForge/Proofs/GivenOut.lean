import ApiForge.Proofs.SnakeIdent

/-!
Names that are given out in one scope. Each item gets the first candidate for the name it wants that
no item before it has, so the names all differ, and the first to want a name keeps it unless an item
before was numbered into it. But names that are written differently can be one identifier, since the
mark of a raw identifier is no part of it: the second to want the keyword `type` gets `r#type2`,
which is what one who wants `type2` has. Main statements: `givenOut_freshAll`, and that this is the
only way in which two of the names become one identifier (`apart_freshAll_iff`).
-/

namespace ApiForge.Name

/-- A name is the first candidate for a wanted one that is not taken. -/
def NextFree (taken : List String) (wanted name : String) : Prop :=
  ∃ n, name = candidate wanted n ∧ name ∉ taken ∧ ∀ k < n, candidate wanted k ∈ taken

/-- Names that items get one after the other for those they want. -/
structure GivenOut (wanted names : List String) : Prop where
  length_eq : names.length = wanted.length
  nodup : names.Nodup
  /-- The search for a name ends, at the first candidate that no item before has. -/
  nextFree : ∀ before w name after, wanted.zip names = before ++ (w, name) :: after →
    NextFree (before.map Prod.snd) w name
  /-- The first to want a name keeps it, unless an item before was numbered into it. -/
  kept : ∀ before w name after, wanted.zip names = before ++ (w, name) :: after →
    w ∉ before.map Prod.fst → name = w ∨ ∃ v n, w = candidate v (n + 1) ∧ (v, w) ∈ before

/-- Names that are all different as identifiers, of which the mark of a raw one is no part. -/
def Apart (names : List String) : Prop := (names.map plainIdent).Nodup

/-- Several want a keyword, and the number that one of them gets makes the identifier of another. -/
def NumbersCollide (wanted names : List String) : Prop :=
  ∃ keyword ∈ rawableKeywords, ∃ n, 2 ≤ n ∧ n ≤ wanted.count (rawMark ++ keyword) ∧
    keyword ++ toString n ∈ names

/-! The first free candidate. -/

section NextFree

variable {taken others : List String} {wanted name other : String}

theorem nextFree_fresh (taken : List String) (wanted : String) :
    NextFree taken wanted (fresh taken wanted) := by
  obtain ⟨n, hn, hbefore⟩ : ∃ k, searchFresh taken id wanted taken.length 0 =
      candidate wanted (0 + k) ∧ ∀ j < k, id (candidate wanted (0 + j)) ∈ taken :=
    exists_first_searchFresh taken.length 0
  rw [Nat.zero_add] at hn
  refine ⟨n, hn, fresh_notMem taken wanted, fun k hk => ?_⟩
  simpa using hbefore k hk

theorem NextFree.unique (h : NextFree taken wanted name) (hother : NextFree taken wanted other) :
    name = other := by
  obtain ⟨m, rfl, hm, hmbefore⟩ := h
  obtain ⟨n, rfl, hn, hnbefore⟩ := hother
  rcases Nat.lt_trichotomy m n with hlt | rfl | hlt
  · exact absurd (hnbefore m hlt) hm
  · rfl
  · exact absurd (hmbefore n hlt) hn

theorem NextFree.congr (h : NextFree taken wanted name) (hsame : ∀ s, s ∈ taken ↔ s ∈ others) :
    NextFree others wanted name := by
  obtain ⟨n, hn, hfree, hbefore⟩ := h
  exact ⟨n, hn, (hsame name).not.mp hfree, fun k hk => (hsame _).mp (hbefore k hk)⟩

theorem fresh_congr (hsame : ∀ s, s ∈ taken ↔ s ∈ others) (wanted : String) :
    fresh taken wanted = fresh others wanted :=
  ((nextFree_fresh taken wanted).congr hsame).unique (nextFree_fresh others wanted)

end NextFree

theorem fresh_of_notMem {used : List String} {wanted : String} (h : wanted ∉ used) :
    fresh used wanted = wanted :=
  (nextFree_fresh used wanted).unique ⟨0, rfl, h, nofun⟩

/-! What is given out for a list of wanted names. -/

/-- What is given out depends on which names are taken, and not on their order. -/
theorem freshAll_congr {taken others : List String} (hsame : ∀ s, s ∈ taken ↔ s ∈ others)
    (wanted : List String) : freshAll taken wanted = freshAll others wanted := by
  induction wanted generalizing taken others with
  | nil => rfl
  | cons w rest ih =>
    rw [freshAll, freshAll, fresh_congr hsame]
    congr 1
    apply ih
    intro s
    rw [List.mem_cons, List.mem_cons, hsame]

theorem freshAll_append (taken wanted more : List String) :
    freshAll taken (wanted ++ more) =
      freshAll taken wanted ++ freshAll (taken ++ freshAll taken wanted) more := by
  induction wanted generalizing taken with
  | nil => rw [List.nil_append, freshAll, List.nil_append, List.append_nil]
  | cons w rest ih =>
    rw [List.cons_append, freshAll, freshAll, ih, List.cons_append]
    congr 2
    apply freshAll_congr
    intro s
    simp [or_left_comm]

theorem nextFree_of_zip {taken wanted : List String} {before after : List (String × String)}
    {w name : String} (h : wanted.zip (freshAll taken wanted) = before ++ (w, name) :: after) :
    NextFree (taken ++ before.map Prod.snd) w name := by
  induction wanted generalizing taken before with
  | nil => exact absurd h.symm (List.append_ne_nil_of_right_ne_nil before (List.cons_ne_nil _ _))
  | cons v rest ih =>
    rw [freshAll, List.zip_cons_cons] at h
    cases before with
    | nil =>
      obtain ⟨hfirst, -⟩ := List.cons.inj h
      obtain ⟨rfl, rfl⟩ := Prod.mk.inj hfirst
      rw [List.map_nil, List.append_nil]
      exact nextFree_fresh taken v
    | cons b before =>
      obtain ⟨rfl, hrest⟩ := List.cons.inj h
      refine (ih hrest).congr fun s => ?_
      simp [or_left_comm]

theorem givenOut_freshAll (wanted : List String) : GivenOut wanted (freshAll [] wanted) := by
  refine ⟨length_freshAll [] wanted, (nodup_freshAll [] wanted).1,
    fun before w name after h => nextFree_of_zip h, fun before w name after h hfirst => ?_⟩
  obtain ⟨n, hn, -, hbefore⟩ := nextFree_of_zip h
  cases n with
  | zero => exact .inl hn
  | succ n =>
    -- The name itself was taken, by an item that wanted another one.
    obtain ⟨⟨v, taken⟩, hv, htaken⟩ := List.mem_map.mp (hbefore 0 (Nat.succ_pos n))
    obtain rfl : taken = w := htaken
    obtain ⟨earlier, later, rfl⟩ := List.append_of_mem hv
    rw [List.append_assoc, List.cons_append] at h
    obtain ⟨k, hk, -, -⟩ := nextFree_of_zip h
    cases k with
    | zero =>
      obtain rfl : taken = v := hk
      exact absurd (List.mem_map_of_mem hv) hfirst
    | succ k => exact .inr ⟨v, k, hk, hv⟩

/-! Which names are given out. -/

theorem eq_wanted_of_eq_candidate {name wanted : String} {k : Nat}
    (hname : endsInDigit name = false) (h : name = candidate wanted k) : name = wanted := by
  cases k with
  | zero => exact h
  | succ k =>
    rw [h, endsInDigit_candidate_succ] at hname
    cases hname

/-- Where digits behind one name make another, the other ends in a digit. -/
theorem eq_of_append_digits {a b : String} (hb : endsInDigit b = false) {t : List Char}
    (ht : ∀ c ∈ t, c.isDigit = true) (h : b.toList = a.toList ++ t) : a = b := by
  by_cases hne : t = []
  · rw [hne, List.append_nil] at h
    exact (String.toList_injective h).symm
  · rw [endsInDigit_append h hne ht] at hb
    cases hb

/-- Names that end in no digit share no candidate. -/
theorem eq_of_candidate_eq {a b : String} (ha : endsInDigit a = false) (hb : endsInDigit b = false)
    {i j : Nat} (h : candidate a i = candidate b j) : a = b := by
  cases i with
  | zero => exact eq_wanted_of_eq_candidate ha h
  | succ i =>
    cases j with
    | zero => exact (eq_wanted_of_eq_candidate hb h.symm).symm
    | succ j =>
      have hlist := congrArg String.toList h
      rw [toList_candidate_succ, toList_candidate_succ] at hlist
      rcases List.append_eq_append_iff.mp hlist with ⟨t, hstem, hdigits⟩ | ⟨t, hstem, hdigits⟩
      · refine eq_of_append_digits hb (fun c hc => ?_) hstem
        exact isDigit_of_mem_toString (hdigits ▸ List.mem_append_left _ hc)
      · refine (eq_of_append_digits ha (fun c hc => ?_) hstem).symm
        exact isDigit_of_mem_toString (hdigits ▸ List.mem_append_left _ hc)

/-- A free name without a number behind it is given out exactly when it is wanted. -/
theorem mem_freshAll_iff {name : String} (hname : endsInDigit name = false)
    {used wanted : List String} (hused : name ∉ used) :
    name ∈ freshAll used wanted ↔ name ∈ wanted := by
  constructor
  · intro h
    obtain ⟨w, hw, k, hk⟩ := exists_candidate_of_mem_freshAll h
    rwa [eq_wanted_of_eq_candidate hname hk]
  · intro h
    induction wanted generalizing used with
    | nil => cases h
    | cons w rest ih =>
      rw [freshAll, List.mem_cons, or_iff_not_imp_left]
      intro hne
      have hlater : name ∉ fresh used w :: used := by
        rw [List.mem_cons, not_or]
        exact ⟨hne, hused⟩
      refine ih hlater ((List.mem_cons.mp h).resolve_left ?_)
      rintro rfl
      exact hne (fresh_of_notMem hused).symm

/-- A name whose candidates are those of no other gets them in turn, one for each item that wants
it. -/
theorem candidate_mem_freshAll_iff {w : String} {wanted taken : List String} {m : Nat}
    (halone : ∀ v ∈ wanted, v ≠ w → ∀ i j, candidate v i ≠ candidate w j)
    (htaken : ∀ n, candidate w n ∈ taken ↔ n < m) (n : Nat) :
    candidate w n ∈ freshAll taken wanted ↔ m ≤ n ∧ n < m + wanted.count w := by
  induction wanted generalizing taken m with
  | nil =>
    rw [freshAll, List.count_nil]
    exact iff_of_false List.not_mem_nil (by omega)
  | cons v rest ih =>
    obtain ⟨hv, halone⟩ := List.forall_mem_cons.mp halone
    rw [freshAll, List.mem_cons]
    by_cases hw : v = w
    · obtain rfl := hw
      have hfresh : fresh taken v = candidate v m :=
        (nextFree_fresh taken v).unique
          ⟨m, rfl, (htaken m).not.mpr (Nat.lt_irrefl m), fun k hk => (htaken k).mpr hk⟩
      have hmore : ∀ n, candidate v n ∈ candidate v m :: taken ↔ n < m + 1 := by
        intro n
        rw [List.mem_cons, htaken, (candidate_injective v).eq_iff]
        omega
      rw [hfresh, ih halone hmore, (candidate_injective v).eq_iff, List.count_cons_self]
      omega
    · obtain ⟨k, hk⟩ := exists_candidate_fresh taken v
      have hother : ∀ n, candidate w n ≠ fresh taken v := by
        intro n h
        exact hv hw k n (hk.symm.trans h.symm)
      have hmore : ∀ n, candidate w n ∈ fresh taken v :: taken ↔ n < m := by
        intro n
        rw [List.mem_cons, or_iff_right (hother n), htaken]
      rw [or_iff_right (hother n), ih halone hmore, List.count_cons_of_ne hw]

/-! The mark of a raw identifier. -/

/-- A name fit for an identifier: a raw keyword, or one without the mark that is no keyword. -/
inductive Escaped : String → Prop
  | raw {keyword : String} (h : keyword ∈ rawableKeywords) : Escaped (rawMark ++ keyword)
  | plain {name : String} (unmarked : '#' ∉ name.toList) (free : name ∉ rawableKeywords) :
    Escaped name

theorem plainIdent_rawMark (s : String) : plainIdent (rawMark ++ s) = s := by
  have hmark : (rawMark ++ s).toList = 'r' :: '#' :: s.toList := String.toList_append
  rw [plainIdent, hmark]
  exact String.ofList_toList

theorem plainIdent_of_head {s : String} (h : s.toList.head? ≠ some 'r') : plainIdent s = s := by
  rw [plainIdent]
  split
  · next heq =>
    rw [heq] at h
    exact absurd rfl h
  · rfl

theorem candidate_rawMark (s : String) (n : Nat) :
    candidate (rawMark ++ s) n = rawMark ++ candidate s n := by
  cases n with
  | zero => rfl
  | succ n => exact String.append_assoc

theorem endsInDigit_rawMark {keyword : String} (h : keyword ∈ rawableKeywords) :
    endsInDigit (rawMark ++ keyword) = false := by
  have hall : ∀ k ∈ rawableKeywords, endsInDigit (rawMark ++ k) = false := by decide
  exact hall keyword h

theorem mark_notMem_candidate {wanted : String} (h : '#' ∉ wanted.toList) (n : Nat) :
    '#' ∉ (candidate wanted n).toList := by
  cases n with
  | zero => exact h
  | succ n =>
    rw [toList_candidate_succ, List.mem_append, not_or]
    refine ⟨h, fun hmem => ?_⟩
    cases isDigit_of_mem_toString hmem

theorem mark_mem_candidate (s : String) (n : Nat) :
    '#' ∈ (candidate (rawMark ++ s) n).toList := by
  rw [candidate_rawMark, String.toList_append]
  exact List.mem_append_left _ (by decide)

namespace Escaped

/-- A raw keyword shares its candidates with no other name. -/
theorem candidate_ne {name keyword : String} (h : Escaped name)
    (hkeyword : keyword ∈ rawableKeywords) (hne : name ≠ rawMark ++ keyword) (i j : Nat) :
    candidate name i ≠ candidate (rawMark ++ keyword) j := by
  intro heq
  cases h with
  | raw hother =>
    exact hne (eq_of_candidate_eq (endsInDigit_rawMark hother) (endsInDigit_rawMark hkeyword) heq)
  | plain unmarked free =>
    exact mark_notMem_candidate unmarked i (heq ▸ mark_mem_candidate keyword j)

/-- What is given out for a name: a candidate for a keyword with the mark before it, or a name
without the mark that is no keyword. -/
theorem candidate_cases {name : String} (h : Escaped name) (n : Nat) :
    (∃ keyword ∈ rawableKeywords, name = rawMark ++ keyword ∧
      candidate name n = rawMark ++ candidate keyword n) ∨
    '#' ∉ (candidate name n).toList ∧ candidate name n ∉ rawableKeywords := by
  cases h with
  | @raw keyword h => exact .inl ⟨keyword, h, rfl, candidate_rawMark keyword n⟩
  | plain unmarked free =>
    refine .inr ⟨mark_notMem_candidate unmarked n, ?_⟩
    cases n with
    | zero => exact free
    | succ n =>
      have hnot := notMem_keywords_of_endsInDigit (endsInDigit_candidate_succ name n)
      exact fun hmem => hnot (List.mem_append_left _ hmem)

end Escaped

section Apart

variable {wanted : List String}

/-- The marked names that are given out: the keyword itself if it is wanted, and its numbered
candidates as far as there are items that want it. -/
theorem rawMark_mem_freshAll_iff (h : ∀ w ∈ wanted, Escaped w) {keyword : String}
    (hkeyword : keyword ∈ rawableKeywords) (n : Nat) :
    rawMark ++ candidate keyword n ∈ freshAll [] wanted ↔
      n < wanted.count (rawMark ++ keyword) := by
  rw [← candidate_rawMark, candidate_mem_freshAll_iff (m := 0)
    (fun v hv hne => (h v hv).candidate_ne hkeyword hne)
    (fun n => iff_of_false List.not_mem_nil (Nat.not_lt_zero n))]
  omega

/-- A marked and an unmarked name that are one identifier collide by a number. -/
theorem numbersCollide_of_marked (h : ∀ w ∈ wanted, Escaped w) {keyword : String}
    (hkeyword : keyword ∈ rawableKeywords) {n : Nat}
    (hmarked : rawMark ++ candidate keyword n ∈ freshAll [] wanted)
    (hplain : candidate keyword n ∈ freshAll [] wanted)
    (hfree : candidate keyword n ∉ rawableKeywords) :
    NumbersCollide wanted (freshAll [] wanted) := by
  cases n with
  | zero => exact absurd hkeyword hfree
  | succ n =>
    have hcount := (rawMark_mem_freshAll_iff h hkeyword (n + 1)).mp hmarked
    exact ⟨keyword, hkeyword, n + 2, by omega, hcount, hplain⟩

theorem apart_of_not_numbersCollide (h : ∀ w ∈ wanted, Escaped w)
    (hapart : ¬ NumbersCollide wanted (freshAll [] wanted)) : Apart (freshAll [] wanted) := by
  refine (nodup_freshAll [] wanted).1.map_on fun a ha b hb hsame => ?_
  obtain ⟨v, hv, m, rfl⟩ := exists_candidate_of_mem_freshAll ha
  obtain ⟨w, hw, n, rfl⟩ := exists_candidate_of_mem_freshAll hb
  rcases (h v hv).candidate_cases m with ⟨k, hk, -, heq⟩ | ⟨hunmarked, hfree⟩
  · rcases (h w hw).candidate_cases n with ⟨l, hl, -, heq'⟩ | ⟨hunmarked', hfree'⟩
    · rw [heq, heq', plainIdent_rawMark, plainIdent_rawMark] at hsame
      rw [heq, heq', hsame]
    · rw [heq, plainIdent_rawMark, plainIdent_of_notMem hunmarked'] at hsame
      rw [heq] at ha
      rw [← hsame] at hb hfree'
      exact absurd (numbersCollide_of_marked h hk ha hb hfree') hapart
  · rcases (h w hw).candidate_cases n with ⟨l, hl, -, heq'⟩ | ⟨hunmarked', hfree'⟩
    · rw [heq', plainIdent_rawMark, plainIdent_of_notMem hunmarked] at hsame
      rw [heq'] at hb
      rw [hsame] at ha hfree
      exact absurd (numbersCollide_of_marked h hl hb ha hfree) hapart
    · rwa [plainIdent_of_notMem hunmarked, plainIdent_of_notMem hunmarked'] at hsame

/-- The names that are given out are all different identifiers exactly when none that wants a
keyword is numbered into another's. -/
theorem apart_freshAll_iff (h : ∀ w ∈ wanted, Escaped w) :
    Apart (freshAll [] wanted) ↔ ¬ NumbersCollide wanted (freshAll [] wanted) := by
  refine ⟨fun hapart => ?_, apart_of_not_numbersCollide h⟩
  rintro ⟨keyword, hkeyword, n, htwo, hcount, hmem⟩
  obtain ⟨m, rfl⟩ := Nat.exists_eq_add_of_le' htwo
  have hmarked := (rawMark_mem_freshAll_iff h hkeyword (m + 1)).mpr hcount
  have hkeywords : ∀ k ∈ rawableKeywords, '#' ∉ k.toList := by decide
  have hunmarked : '#' ∉ (candidate keyword (m + 1)).toList :=
    mark_notMem_candidate (hkeywords keyword hkeyword) (m + 1)
  have hsame : plainIdent (rawMark ++ candidate keyword (m + 1)) =
      plainIdent (candidate keyword (m + 1)) := by
    rw [plainIdent_rawMark, plainIdent_of_notMem hunmarked]
  have heq : rawMark ++ candidate keyword (m + 1) = candidate keyword (m + 1) :=
    List.inj_on_of_nodup_map hapart hmarked hmem hsame
  rw [← heq, String.toList_append] at hunmarked
  exact hunmarked (List.mem_append_left _ (by decide))

/-- Where each keyword is wanted by one item at most, no number makes an identifier of another. -/
theorem not_numbersCollide_of_count_le {names : List String}
    (h : ∀ k ∈ rawableKeywords, wanted.count (rawMark ++ k) ≤ 1) :
    ¬ NumbersCollide wanted names := by
  rintro ⟨keyword, hkeyword, n, htwo, hcount, -⟩
  have hone := h keyword hkeyword
  omega

/-- Whether names are apart does not depend on their order. -/
theorem apart_congr {names others : List String} (hperm : names.Perm others) :
    Apart names ↔ Apart others :=
  (hperm.map plainIdent).nodup_iff

theorem numbersCollide_congr {names others : List String} (hperm : names.Perm others) :
    NumbersCollide wanted names ↔ NumbersCollide wanted others := by
  simp only [NumbersCollide, hperm.mem_iff]

/-- Names that do not begin like a raw identifier are all different identifiers if they differ. -/
theorem apart_of_head {names : List String} (hnodup : names.Nodup)
    (h : ∀ name ∈ names, name.toList.head? ≠ some 'r') : Apart names := by
  have hsame : names.map plainIdent = names :=
    (List.map_congr_left fun name hname => plainIdent_of_head (h name hname)).trans
      (List.map_id names)
  rwa [Apart, hsame]

end Apart

/-! Identifiers that the code wants. -/

theorem escaped_escapeKeyword {s : String} (h : '#' ∉ s.toList) : Escaped (escapeKeyword s) := by
  have hpath : ∀ k ∈ pathKeywords, '#' ∉ (k ++ "_").toList ∧ k ++ "_" ∉ rawableKeywords := by
    decide
  rw [escapeKeyword]
  split
  · next hs =>
    obtain ⟨hunmarked, hfree⟩ := hpath s (List.contains_iff_mem.mp hs)
    exact .plain hunmarked hfree
  · split
    · next hs => exact .raw (List.contains_iff_mem.mp hs)
    · next hs => exact .plain h fun hmem => hs (List.contains_iff_mem.mpr hmem)

theorem escaped_snakeIdent (name : String) : Escaped (snakeIdent name) := by
  rw [snakeIdent_eq]
  split
  · exact .plain (by decide) (by decide)
  · apply escaped_escapeKeyword
    rw [String.toList_ofList]
    exact mark_notMem_guardDigit (mark_notMem_snakeCase name.toList)

end ApiForge.Name
