import ApiForge.Proofs.Layout
import ApiForge.Proofs.VariantIdent

/-!
The names of the modules that an index declares. A stem is made of the words of a type's name, so it
holds the letters and numbers of the name in small letters and underscores between words, and what
stands before the first letter or number is dropped. The small form of a letter may stand in an
identifier exactly when the letter may, and begin one likewise, so a name that is an identifier
makes a stem that is one, except when what is dropped is what the name may begin with.
Main statement: `moduleNames_usable_iff`.
-/

namespace ApiForge

namespace Text

/-! What words consist of. -/

theorem flatten_pieces (separates : Char → Bool) (s : List Char) :
    (pieces separates s).flatten = s.filter (!separates ·) := by
  induction s with
  | nil => rfl
  | cons c s ih =>
    rw [pieces]
    cases hc : separates c with
    | true => simpa [hc] using ih
    | false =>
      rw [List.filter_cons_of_pos (by rw [hc]; rfl), ← ih]
      cases pieces separates s with
      | nil => rfl
      | cons piece more => rfl

theorem flatten_humps (seen : Casing) (word s : List Char) :
    (humps seen word s).flatten = word.reverse ++ s := by
  induction seen, word, s using humps.induct with
  | case1 seen word => simp [humps]
  | case2 seen word c => simp [humps]
  | case3 seen word c d rest hends ih =>
    rw [humps, if_pos hends, List.flatten_cons, ih]
    simp
  | case4 seen word c d rest hends hstarts ih =>
    rw [humps, if_neg hends, if_pos hstarts, List.flatten_cons, ih]
    simp
  | case5 seen word c d rest hends hstarts ih =>
    rw [humps, if_neg hends, if_neg hstarts, ih]
    simp

/-- The words of a name hold its letters and numbers, all of them and in order. -/
theorem flatten_words (s : List Char) : (words s).flatten = s.filter isAlphanumeric := by
  have hpieces : ∀ ps : List (List Char),
      (ps.flatMap fun piece => if piece.isEmpty then [] else humps .unset [] piece).flatten =
        ps.flatten := by
    intro ps
    induction ps with
    | nil => rfl
    | cons piece ps ih =>
      rw [List.flatMap_cons, List.flatten_append, ih, List.flatten_cons]
      cases piece with
      | nil => rfl
      | cons c piece =>
        rw [List.isEmpty_cons, if_neg Bool.false_ne_true, flatten_humps]
        rfl
  rw [words, hpieces, flatten_pieces]
  simp

/-! Small letters. -/

/-- No letter has an underscore in its small form. -/
theorem underscore_notMem_toLowercase {c : Char} (hc : c ≠ '_') : '_' ∉ toLowercase c := by
  have htables : toLowerShifts.all (CaseShift.avoids [⟨95, 95, 1⟩]) = true ∧
      toLowerTexts.all (fun p => !(p.2.map Char.ofNat).contains '_') = true := by
    decide
  rw [toLowercase]
  rcases CaseShift.apply_cases toLowerShifts toLowerTexts c with
    hsame | ⟨s, hs, hn, hmoved⟩ | ⟨codes, hmem, htext⟩
  · rw [hsame, List.mem_singleton]
    exact hc.symm
  · rw [hmoved, List.mem_singleton]
    intro hunderscore
    have hcode := (CaseShift.spec_of_isFaithful (caseTables_faithful.2.2.1 s hs).1 hn).1
    have hapart := CaseShift.not_covers_of_avoids (List.all_eq_true.mp htables.1 s hs) hn
    rw [← hcode, ← hunderscore] at hapart
    cases hapart
  · have hcodes := List.all_eq_true.mp htables.2 _ hmem
    rw [htext]
    simpa using hcodes

theorem all_toLowercase (c : Char) :
    (toLowercase c).all continuesIdentifier = continuesIdentifier c := by
  obtain ⟨head, rest, heq, -, hcontinues, hrest⟩ := exists_sameClass c
  rw [heq, List.all_cons, hcontinues, hrest, Bool.and_true]

theorem sigma_starts : startsIdentifier 'Σ' = true ∧ startsIdentifier 'ς' = true := by
  decide

/-- A word in small letters holds what may continue an identifier exactly when the word does. -/
theorem all_lowerWord (word : List Char) :
    (lowerWord word).all continuesIdentifier = word.all continuesIdentifier := by
  induction word with
  | nil => rfl
  | cons c word ih =>
    cases word with
    | nil =>
      rw [lowerWord]
      split
      · next hsigma =>
        rw [hsigma]
        simp [continuesIdentifier_of_startsIdentifier sigma_starts.1,
          continuesIdentifier_of_startsIdentifier sigma_starts.2]
      · simp [all_toLowercase]
    | cons d word =>
      rw [lowerWord, List.all_append, ih, all_toLowercase]
      · rfl
      · exact List.cons_ne_nil d word

/-- A word in small letters begins with what may begin an identifier exactly when the word does. -/
theorem exists_lowerWord_head {c : Char} (hc : c ≠ '_') (word : List Char) :
    ∃ head rest, lowerWord (c :: word) = head :: rest ∧
      startsIdentifier head = startsIdentifier c ∧ head ≠ '_' := by
  obtain ⟨head, rest, heq, hstarts, -, -⟩ := exists_sameClass c
  have hunderscore : head ≠ '_' := by
    rintro rfl
    exact underscore_notMem_toLowercase hc (heq ▸ List.mem_cons_self)
  cases word with
  | nil =>
    rw [lowerWord]
    split
    · next hsigma =>
      refine ⟨'ς', [], rfl, ?_, by decide⟩
      rw [hsigma, sigma_starts.1, sigma_starts.2]
    · exact ⟨head, rest, heq, hstarts, hunderscore⟩
  | cons d word =>
    refine ⟨head, rest ++ lowerWord (d :: word), ?_, hstarts, hunderscore⟩
    rw [lowerWord, heq, List.cons_append]
    exact List.cons_ne_nil d word

theorem all_intercalate_underscore (ls : List (List Char)) :
    (['_'].intercalate ls).all continuesIdentifier = ls.all (·.all continuesIdentifier) := by
  have hunderscore : continuesIdentifier '_' = true :=
    Name.continuesIdentifier_of_isPlain (.inr rfl)
  induction ls with
  | nil => rfl
  | cons l ls ih =>
    cases ls with
    | nil => simp
    | cons m ls =>
      rw [List.intercalate_cons_cons, List.all_append, List.all_append, ih]
      simp [hunderscore]

theorem all_snakeCase (s : List Char) :
    (snakeCase s).all continuesIdentifier = (s.filter isAlphanumeric).all continuesIdentifier := by
  have hwords : ((fun w : List Char => w.all continuesIdentifier) ∘ lowerWord) =
      fun w => w.all continuesIdentifier := funext all_lowerWord
  rw [snakeCase, all_intercalate_underscore, List.all_map, hwords, ← flatten_words,
    List.all_flatten]

/-- A name in snake case is empty if the name has no letters, and else it begins with the small form
of the first one. -/
theorem snakeCase_cases (s : List Char) :
    s.filter isAlphanumeric = [] ∧ snakeCase s = [] ∨
      ∃ c more head rest, s.filter isAlphanumeric = c :: more ∧ snakeCase s = head :: rest ∧
        startsIdentifier head = startsIdentifier c ∧ head ≠ '_' := by
  rw [← flatten_words, snakeCase]
  rcases hwords : words s with _ | ⟨word, more⟩
  · exact .inl ⟨rfl, rfl⟩
  · right
    have hmem : word ∈ words s := by
      rw [hwords]
      exact List.mem_cons_self
    obtain ⟨c, letters, rfl⟩ := List.exists_cons_of_ne_nil (ne_nil_of_mem_words hmem)
    have hc : c ≠ '_' := by
      have hmark := Name.isMark_of_isAlphanumeric
        (isAlphanumeric_of_mem_words hmem List.mem_cons_self)
      rintro rfl
      cases hmark
    obtain ⟨head, small, heq, hstarts, hunderscore⟩ := exists_lowerWord_head hc letters
    rw [List.map_cons, heq]
    refine ⟨c, letters ++ more.flatten, head, ?_, rfl, ?_, hstarts, hunderscore⟩
    · exact (['_'].intercalate ((head :: small) :: more.map lowerWord)).tail
    · cases more with
      | nil => simp
      | cons next more => simp [List.intercalate_cons_cons]

end Text

namespace Name

open Text

def IsModuleName (s : String) : Prop :=
  Code.isName s.toList = true ∧ s ∉ rawableKeywords ++ pathKeywords

/-- Whether a type's name makes the name of a module: its first letter or number may begin an
identifier, and the others may continue one. -/
structure Stemmed (name : String) : Prop where
  begins : ∀ c ∈ (letters name).head?, startsIdentifier c = true
  continues : (letters name).all continuesIdentifier = true

theorem isModuleName_iff {s : String} (hkeyword : s ∉ rawableKeywords ++ pathKeywords)
    (hhead : s.toList.head? ≠ some '_') : IsModuleName s ↔ Code.isWord s.toList = true := by
  have hkeywords : ∀ k ∈ Code.keywords, k ∈ rawableKeywords ++ pathKeywords := by decide
  have hnone : Code.isKeyword s.toList = false := by
    rw [← Bool.not_eq_true, Code.isKeyword, String.ofList_toList, List.contains_iff_mem]
    exact fun hmem => hkeyword (hkeywords s hmem)
  have hbare : (s.toList != ['_']) = true := by
    rw [bne_iff_ne]
    intro heq
    rw [heq] at hhead
    exact hhead rfl
  rw [IsModuleName, Code.isName, hnone, hbare, Bool.not_false, Bool.and_true, Bool.and_true]
  exact and_iff_left hkeyword

/-- The stem that a type's name wants: the name in snake case, with an underscore behind it where it
would be a keyword, or a fixed word if there is nothing in it. -/
theorem moduleFileName_cases (name : String) :
    (letters name = [] ∧ moduleFileName name = fallbackKey) ∨
      ∃ c more head rest ending, letters name = c :: more ∧
        (moduleFileName name).toList = head :: rest ++ ending ∧ (ending = [] ∨ ending = ['_']) ∧
        startsIdentifier head = startsIdentifier c ∧ head ≠ '_' ∧
        (head :: rest).all continuesIdentifier = (letters name).all continuesIdentifier := by
  have hall := all_snakeCase name.toList
  rcases snakeCase_cases name.toList with
    ⟨hnone, hempty⟩ | ⟨c, more, head, rest, hletters, hsnake, hstarts, hunderscore⟩
  · left
    rw [moduleFileName, snakeCase, hempty]
    exact ⟨hnone, rfl⟩
  · right
    rw [hsnake] at hall
    have hsome : (String.ofList (head :: rest)).isEmpty = false := by simp
    rw [moduleFileName, snakeCase, hsnake, hsome]
    simp only [Bool.false_eq_true, if_false]
    split
    · refine ⟨c, more, head, rest, ['_'], hletters, ?_, .inr rfl, hstarts, hunderscore, hall⟩
      rw [String.toList_append, String.toList_ofList]
      rfl
    · refine ⟨c, more, head, rest, [], hletters, ?_, .inl rfl, hstarts, hunderscore, hall⟩
      rw [String.toList_ofList, List.append_nil]

theorem notMem_keywords_moduleFileName (name : String) :
    moduleFileName name ∉ rawableKeywords ++ pathKeywords := by
  have hplain : ∀ k ∈ rawableKeywords ++ pathKeywords, k.toList.getLast? ≠ some '_' ∧
      k ≠ fallbackKey := by
    decide
  intro hmem
  rw [moduleFileName] at hmem
  split at hmem
  · exact (hplain _ hmem).2 rfl
  · split at hmem
    · refine (hplain _ hmem).1 ?_
      rw [String.toList_append]
      exact List.getLast?_concat
    · next hword =>
      rw [List.mem_append] at hmem
      simp only [Bool.or_eq_true, List.contains_iff_mem] at hword
      exact hword hmem

theorem head?_moduleFileName (name : String) : (moduleFileName name).toList.head? ≠ some '_' := by
  rcases moduleFileName_cases name with
    ⟨-, heq⟩ | ⟨c, more, head, rest, ending, -, heq, -, -, hunderscore, -⟩
  · rw [heq]
    decide
  · rw [heq]
    exact fun h => hunderscore (Option.some.inj h)

theorem isWord_moduleFileName_iff (name : String) :
    Code.isWord (moduleFileName name).toList = true ↔ Stemmed name := by
  rcases moduleFileName_cases name with
    ⟨hnone, heq⟩ | ⟨c, more, head, rest, ending, hletters, heq, hending, hstarts, hunderscore, hall⟩
  · have hword : Code.isWord fallbackKey.toList = true := by decide
    rw [heq]
    exact iff_of_true hword ⟨by simp [hnone], by simp [hnone]⟩
  · have hends : ending.all continuesIdentifier = true := by
      rcases hending with rfl | rfl
      · rfl
      · simp [continuesIdentifier_of_isPlain (.inr rfl)]
    have hbegins : Stemmed name ↔ startsIdentifier head = true ∧
        (head :: rest).all continuesIdentifier = true := by
      rw [hall, hstarts]
      constructor
      · exact fun h => ⟨h.begins c (by rw [hletters]; rfl), h.continues⟩
      · rintro ⟨hc, hmore⟩
        refine ⟨?_, hmore⟩
        rw [hletters]
        rintro d hd
        obtain rfl := Option.some.inj hd
        exact hc
    rw [hbegins, heq, isWord_append (List.cons_ne_nil head rest), hends, Bool.and_true, Code.isWord,
      Code.startsWord, beq_eq_false_iff_ne.mpr hunderscore, Bool.false_or, Bool.and_eq_true,
      List.all_cons, Bool.and_eq_true]
    constructor
    · exact fun h => ⟨h.1, continuesIdentifier_of_startsIdentifier h.1, h.2⟩
    · exact fun h => ⟨h.1, h.2.2⟩

/-- A stem with a number behind it, or without, can name a module exactly when the letters and
numbers of the type's name allow it. -/
theorem isModuleName_candidate_iff (name : String) (k : Nat) :
    IsModuleName (candidate (moduleFileName name) k) ↔ Stemmed name := by
  have hne : (moduleFileName name).toList ≠ [] :=
    fun h => (isStem_moduleFileName name).ne_empty (String.toList_eq_nil_iff.mp h)
  have hhead : (candidate (moduleFileName name) k).toList.head? ≠ some '_' := by
    rw [head?_candidate hne]
    exact head?_moduleFileName name
  have hkeyword : candidate (moduleFileName name) k ∉ rawableKeywords ++ pathKeywords :=
    candidate_notMem_keywords (notMem_keywords_moduleFileName name) k
  rw [isModuleName_iff hkeyword hhead, isWord_candidate hne, isWord_moduleFileName_iff]

/-- An identifier makes the name of a module unless its first letter or number may not begin one. -/
theorem stemmed_iff_of_isName {name : String} (h : Code.isName name.toList = true) :
    Stemmed name ↔ ∀ c ∈ (letters name).head?, startsIdentifier c = true := by
  refine ⟨Stemmed.begins, fun hbegins => ⟨hbegins, ?_⟩⟩
  rw [Code.isName, Bool.and_eq_true, Bool.and_eq_true] at h
  obtain ⟨⟨hword, -⟩, -⟩ := h
  have hall : name.toList.all continuesIdentifier = true := by
    rcases hchars : name.toList with _ | ⟨c, rest⟩
    · rfl
    · rw [hchars, Code.isWord, Code.startsWord, Bool.and_eq_true, Bool.or_eq_true,
        beq_iff_eq] at hword
      rw [List.all_cons, hword.2, Bool.and_true]
      rcases hword.1 with rfl | hstarts
      · exact continuesIdentifier_of_isPlain (.inr rfl)
      · exact continuesIdentifier_of_startsIdentifier hstarts
  rw [letters, List.all_filter, List.all_eq_true]
  intro c hc
  rw [List.all_eq_true.mp hall c hc]
  exact Bool.or_true _

/-- Every stem is the one that its type's name wants, with a number behind it or without. -/
theorem exists_candidate_of_mem_moduleStems {names : List String} {p : String × String}
    (h : p ∈ moduleStems names) : ∃ k, p.2 = candidate (moduleFileName p.1) k := by
  have hstems := forall₂_freshAll [] (names.eraseDups.map moduleFileName)
  rw [List.forall₂_map_left_iff, List.forall₂_iff_zip] at hstems
  exact hstems.2 h

theorem declaredModules_moduleStems (names : List String) :
    Emit.declaredModules (Emit.moduleIndex ((moduleStems names).map Prod.snd)) =
      (moduleStems names).map Prod.snd :=
  Emit.declaredModules_moduleIndex fun _ hs => (isStem_of_mem_moduleStems hs).no_lineBreak

/-- For type names that are identifiers the index declares the stems that are assigned to them. A
stem can name a module exactly when the first letter or number of its type's name may begin an
identifier, or there is none, whatever the other names are. So the modules all have names that the
language takes exactly when this holds of all the names. -/
theorem moduleNames_usable_iff (names : List String)
    (h : ∀ name ∈ names, Code.isName name.toList = true) :
    Emit.declaredModules (Emit.moduleIndex ((moduleStems names).map Prod.snd)) =
      (moduleStems names).map Prod.snd ∧
    (moduleStems names).map Prod.fst = names.eraseDups ∧
    (∀ p ∈ moduleStems names,
      IsModuleName p.2 ↔ ∀ c ∈ (letters p.1).head?, startsIdentifier c = true) ∧
    ((∀ stem ∈ (moduleStems names).map Prod.snd, IsModuleName stem) ↔
      ∀ name ∈ names, ∀ c ∈ (letters name).head?, startsIdentifier c = true) := by
  have hkeys := keys_moduleStems names
  have hmem : ∀ name, name ∈ names ↔ name ∈ (moduleStems names).map Prod.fst := by
    intro name
    rw [hkeys, List.mem_eraseDups]
  have heach : ∀ p ∈ moduleStems names,
      IsModuleName p.2 ↔ ∀ c ∈ (letters p.1).head?, startsIdentifier c = true := by
    intro p hp
    obtain ⟨k, hk⟩ := exists_candidate_of_mem_moduleStems hp
    have hname := h p.1 ((hmem p.1).mpr (List.mem_map_of_mem hp))
    rw [hk, isModuleName_candidate_iff, stemmed_iff_of_isName hname]
  refine ⟨declaredModules_moduleStems names, hkeys, heach, ?_⟩
  simp only [hmem, List.forall_mem_map]
  exact forall₂_congr heach

/-- A name that is dropped down to a keyword, two that differ in their capitals, and one without
letters. -/
theorem typeNames_usable :
    Emit.declaredModules (Emit.moduleIndex
        ((moduleStems ["_Type", "HTTPStatus", "HttpStatus", "__"]).map Prod.snd)) =
      ["type_", "http_status", "http_status2", "object"] ∧
    ∀ stem ∈ ["type_", "http_status", "http_status2", "object"], IsModuleName stem := by
  have hnames : ["_Type", "HTTPStatus", "HttpStatus", "__"].all (fun name =>
      Code.isName name.toList && (letters name).head?.all startsIdentifier) = true := by
    decide
  have hstems : (moduleStems ["_Type", "HTTPStatus", "HttpStatus", "__"]).map Prod.snd =
      ["type_", "http_status", "http_status2", "object"] := by
    decide
  simp only [List.all_eq_true, Bool.and_eq_true] at hnames
  obtain ⟨hdeclared, -, -, husable⟩ := moduleNames_usable_iff
    ["_Type", "HTTPStatus", "HttpStatus", "__"] fun name hname => (hnames name hname).1
  rw [hstems] at hdeclared husable
  rw [hstems]
  refine ⟨hdeclared, husable.mpr fun name hname c hc => ?_⟩
  have hfirst := (hnames name hname).2
  rw [hc] at hfirst
  exact hfirst

/-- The name of a variant of a union that the property `_1` holds. What stands before the number is
dropped, and the module begins with the number. -/
theorem digitName_unusable :
    DerivedUnion.variantName "_1" "A" = "_1A" ∧ Code.isName "_1A".toList = true ∧
      Emit.declaredModules (Emit.moduleIndex ((moduleStems ["_1A"]).map Prod.snd)) = ["1a"] ∧
      ¬IsModuleName "1a" := by
  have hnames : DerivedUnion.variantName "_1" "A" = "_1A" ∧ Code.isName "_1A".toList = true ∧
      (moduleStems ["_1A"]).map Prod.snd = ["1a"] ∧ Code.isName "1a".toList = false := by
    decide
  obtain ⟨hvariant, hname, hstems, hdigit⟩ := hnames
  refine ⟨hvariant, hname, ?_, fun h => ?_⟩
  · rw [declaredModules_moduleStems, hstems]
  · rw [h.1] at hdigit
    cases hdigit

end Name

end ApiForge
