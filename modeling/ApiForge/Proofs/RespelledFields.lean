import ApiForge.Proofs.RespelledTypes

/-!
Fields. A type that is made of names and of brackets around one type is read up to what stands
behind it, whatever it is (`anyType_of_spellsType`). The tokens that two spellings differ in come
after the word that makes a field public and its name, so the readers that ask who may see a
declaration are the ones that get into a field (`Respelled.visibility`): a reader of named fields
goes on to the comma behind its type, any other stops in front of its colon.
-/

namespace ApiForge.Code

variable {ts us rest : List Token} {f g k l m n : Nat} {r q : Reader}

/-- Tokens that end a type which stands before them. -/
inductive Stops : List Token → Prop
  | intro {c : Char} (hc : c ∈ [',', '>', ':']) {ts : List Token}
      (single : colons (.mark c :: ts) = none) : Stops (.mark c :: ts)

theorem mark_mark (c d : Char) (ts : List Token) :
    mark c (.mark d :: ts) = if c = d then some ts else none := rfl

theorem mark_of_stops (h : Stops ts) {c : Char} (hc : c ∉ [',', '>', ':']) : mark c ts = none := by
  cases h with
  | intro hd =>
    rw [mark_mark, if_neg]
    rintro rfl
    exact hc hd

theorem colons_of_stops (h : Stops ts) : colons ts = none := by
  cases h with
  | intro _ single => exact single

theorem beforeArguments_of_colons (h : colons ts = none) : beforeArguments ts = some ts := by
  rw [beforeArguments, optional]
  simp [fits, both, h]

theorem pathArguments_of_stops (h : Stops ts) (n : Nat) : pathArguments (n + 1) ts = some ts := by
  cases h with
  | @intro c hc ts single =>
    have habsent : argumentsHead (.mark c) = .absent := by
      simp only [List.mem_cons, List.not_mem_nil, or_false] at hc
      rcases hc with rfl | rfl | rfl <;> rfl
    rw [pathArguments_of_cons (beforeArguments_of_colons single), habsent]

section Named

variable {t : Token} (ht : t.isName = true)

include ht

theorem mark_of_isName (c : Char) (ts : List Token) : mark c (t :: ts) = none := by
  cases t with
  | mark => cases ht
  | _ => rfl

theorem colons_of_isName (ts : List Token) : colons (t :: ts) = none := by
  rw [colons, marks_eq, both, mark_of_isName ht]
  rfl

theorem name_of_isName (ts : List Token) : name (t :: ts) = some ts := by
  rw [name_eq, token, if_pos ht]

theorem lifetime_of_isName (ts : List Token) : lifetime (t :: ts) = none := by
  cases t with
  | lifetime => cases ht
  | _ => rfl

theorem word_of_isName {w : String} (hw : isKeyword w.toList = true) (ts : List Token) :
    word w (t :: ts) = none := by
  rw [word_eq, token, if_neg]
  intro h
  obtain rfl := beq_iff_eq.mp h
  simp [Token.isName, isName, hw] at ht

theorem segmentName_of_isName (ts : List Token) : segmentName (t :: ts) = some ts := by
  rw [segmentName, oneOf, name_of_isName ht]
  rfl

theorem beginsPath_of_isName (ts : List Token) : beginsPath (t :: ts) = true := by
  rw [beginsPath, fits, segmentName_of_isName ht]
  rfl

theorem typeHead_of_isName : typeHead t = .path := by
  rw [typeHead.eq_def]
  split <;> first | rfl | exact absurd ht (by decide)

theorem argumentHead_of_isName : argumentHead t = .type := by
  rw [argumentHead.eq_def]
  split <;> first | rfl | exact absurd ht (by decide)

/-- A path that is a name and its arguments. -/
theorem path_of_arguments (harguments : pathArguments n ts = some rest) (hrest : Stops rest) :
    path (n + 1) (t :: ts) = some rest := by
  have hoptional : optional colons (t :: ts) = some (t :: ts) := by
    rw [optional, colons_of_isName ht]
    rfl
  rw [path, hoptional]
  simp only [Option.bind_eq_bind, Option.bind_some, segmentName_of_isName ht, harguments, fits,
    colons_of_stops hrest]
  rfl

theorem type_of_path (hpath : path n (t :: ts) = some rest) (hrest : Stops rest) :
    type (n + 2) (t :: ts) = some rest := by
  have hmacro : optional macroCall rest = some rest := by
    rw [optional, macroCall, both, mark_of_stops hrest (by decide)]
    rfl
  have hplain : plainType (n + 1) (t :: ts) = some rest := by
    rw [plainType_cons, typeHead_of_isName ht]
    simp only [beginsPath_of_isName ht, hpath]
    exact hmacro
  have hlifetime : fits lifetime (t :: ts) = false := by
    rw [fits, lifetime_of_isName ht]
    rfl
  rw [type, beginsPath_of_isName ht, hlifetime, hplain]
  simp [mark_of_stops hrest (c := '+') (by decide)]

end Named

/-- An argument that is a type with a name. -/
theorem typeArgument_of_type {t : Token} (ht : t.isName = true) (hequal : mark '=' ts = none)
    (hcolon : mark ':' ts = none) (htype : type n (t :: ts) = some rest) :
    typeArgument (n + 1) (t :: ts) = some rest := by
  have hnone : ∀ {c}, mark c ts = none → fits (both name (mark c)) (t :: ts) = false := by
    intro c hc
    rw [fits, both, name_of_isName ht]
    simp [hc]
  rw [typeArgument_eq, hnone hequal, hnone hcolon, plainArgument, argumentHead_of_isName ht]
  exact htype

theorem SpellsType.exists_head {x : List Token} (h : SpellsType x) :
    ∃ t more, t.isName = true ∧ x = t :: more ∧ (more = [] ∨ ∃ y, more = .mark '<' :: y) := by
  cases h with
  | @name w hw => exact ⟨.word w, [], hw, rfl, .inl rfl⟩
  | @wrapped w hw => exact ⟨.word w, _, hw, rfl, .inr ⟨_, rfl⟩⟩

theorem stops_closing (rest : List Token) : Stops (.mark '>' :: rest) := .intro (by decide) rfl

theorem stops_comma (rest : List Token) : Stops (.mark ',' :: rest) := .intro (by decide) rfl

theorem stops_colon {x : List Token} (h : SpellsType x) (rest : List Token) :
    Stops (.mark ':' :: (x ++ rest)) := by
  obtain ⟨t, more, ht, rfl, -⟩ := h.exists_head
  refine .intro (by decide) ?_
  rw [List.cons_append, colons, marks_eq, both, mark_mark, if_pos rfl, Option.bind_eq_bind,
    Option.bind_some, mark_of_isName ht]

theorem pathArguments_wrapped {x : List Token} (h : SpellsType x)
    (htype : type n (x ++ .mark '>' :: rest) = some (.mark '>' :: rest)) :
    pathArguments (n + 2) (.mark '<' :: (x ++ .mark '>' :: rest)) = some rest := by
  obtain ⟨t, more, ht, rfl, hmore⟩ := h.exists_head
  have hnext : ∀ c, c ∉ ['<', '>'] → mark c (more ++ .mark '>' :: rest) = none := by
    intro c hc
    rw [List.mem_cons, List.mem_singleton, not_or] at hc
    rcases hmore with rfl | ⟨y, rfl⟩
    · exact if_neg hc.2
    · exact if_neg hc.1
  have hargument : typeArgument (n + 1) (t :: more ++ .mark '>' :: rest) =
      some (.mark '>' :: rest) :=
    typeArgument_of_type ht (hnext '=' (by decide)) (hnext ':' (by decide)) htype
  have hlisted : ∀ k, listed (typeArgument (n + 1)) '>' (k + 1)
      (t :: more ++ .mark '>' :: rest) = some rest := by
    intro k
    rw [listed_succ, oneOf, List.cons_append, mark_of_isName ht, ← List.cons_append, Option.none_or,
      oneOf, both, hargument]
    rfl
  have hbefore : beforeArguments (.mark '<' :: (t :: more ++ .mark '>' :: rest)) =
      some (.mark '<' :: (t :: more ++ .mark '>' :: rest)) := beforeArguments_of_colons rfl
  rw [pathArguments_of_cons hbefore]
  exact hlisted _

/-- A type that is spelled with names is read up to what stands behind it. -/
theorem type_of_spellsType {x : List Token} (h : SpellsType x) (hn : 4 * x.length ≤ n)
    (hrest : Stops rest) : type n (x ++ rest) = some rest := by
  induction h generalizing n rest with
  | @name w hw =>
    obtain ⟨n, rfl⟩ : ∃ k, n = k + 4 := ⟨n - 4, by simp at hn; omega⟩
    exact type_of_path (t := .word w) hw
      (path_of_arguments hw (pathArguments_of_stops hrest n) hrest) hrest
  | @wrapped w hw ts inner ih =>
    obtain ⟨n, rfl⟩ : ∃ k, n = k + 5 := ⟨n - 5, by simp at hn; omega⟩
    have hinner : type n (ts ++ .mark '>' :: rest) = some (.mark '>' :: rest) :=
      ih (by simp at hn; omega) (stops_closing rest)
    rw [List.cons_append, List.cons_append, List.append_assoc]
    exact type_of_path (t := .word w) hw
      (path_of_arguments hw (pathArguments_wrapped inner hinner) hrest) hrest

theorem anyType_of_spellsType {x : List Token} (h : SpellsType x) (hrest : Stops rest) :
    anyType (x ++ rest) = some rest :=
  type_of_spellsType h (by rw [steps, List.length_append]; omega) hrest

/-! Fields, and what else may be public. -/

theorem agree_anyType : Agree m n 0 anyType anyType := fun ts us hts _ _ =>
  (types_agree _ _).type ts us hts (by rw [steps]; omega) (by rw [steps]; omega)

theorem agree_anyBounds : Agree m n 0 anyBounds anyBounds := fun ts us hts _ _ =>
  (types_agree _ _).bounds ts us hts (by rw [steps]; omega) (by rw [steps]; omega)

/-- The tokens of fields behind the word that makes them public. -/
inductive BareFields : List Token → List Token → Prop
  | intro {id : Token} (names : id.isName = true) {x y : List Token} (left : SpellsType x)
      (right : SpellsType y) {ts us : List Token} (rest : Respelled ts us) :
      BareFields (id :: .mark ':' :: (x ++ .mark ',' :: ts))
        (id :: .mark ':' :: (y ++ .mark ',' :: us))

theorem optional_group_of_isName {t : Token} (ht : t.isName = true) (ts : List Token) :
    optional (group '(') (t :: ts) = some (t :: ts) := by
  have hgroup : group '(' = both (mark '(') (closed [')']) := group_eq rfl
  rw [optional, hgroup, both, mark_of_isName ht]
  rfl

theorem visibility_public (ts : List Token) :
    visibility (publicWord :: ts) = optional (group '(') ts := by
  have hword : word "pub" (publicWord :: ts) = some ts := by
    rw [word_eq, token]
    exact if_pos (beq_self_eq_true publicWord)
  rw [visibility, optional, both, hword, Option.bind_eq_bind, Option.bind_some, optional,
    Option.or_assoc]
  rfl

theorem visibility_of_ne {t : Token} (ht : t ≠ publicWord) (ts : List Token) :
    visibility (t :: ts) = some (t :: ts) := by
  have hword : word "pub" (t :: ts) = none := by
    rw [word_eq, token, if_neg]
    exact fun h => ht (beq_iff_eq.mp h)
  rw [visibility, optional, both, hword]
  rfl

protected theorem Respelled.visibility (h : Respelled ts us) :
    Meets 0 ts.length us.length (visibility ts) (visibility us) ∨
      ∃ ts' us', BareFields ts' us' ∧ ts'.length ≤ ts.length ∧ us'.length ≤ us.length ∧
        visibility ts = some ts' ∧ visibility us = some us' := by
  cases h with
  | nil => exact .inl (.read .nil (Nat.le_refl _) (Nat.le_refl _))
  | @cons t ts us rest =>
    left
    by_cases ht : t = publicWord
    · rw [ht, visibility_public, visibility_public]
      exact ((Agree.group '(' rfl).optional.on rest).succ
    · rw [visibility_of_ne ht, visibility_of_ne ht]
      exact .read (.cons t rest) (Nat.le_refl _) (Nat.le_refl _)
  | field names left right rest =>
    right
    refine ⟨_, _, .intro names left right rest, Nat.le_succ _, Nat.le_succ _, ?_, ?_⟩
    · rw [visibility_public, optional_group_of_isName names]
    · rw [visibility_public, optional_group_of_isName names]

theorem Agree.both_toColon {r' q' : Reader} (h : Agree m n k r q) (h' : AgreeToColon m n r' q') :
    AgreeToColon m n (both r r') (both q q') := by
  intro ts us hts hm hn
  have hfirst := h ts us hts hm hn
  rw [both, both]
  generalize r ts = o, q us = p at hfirst ⊢
  cases hfirst with
  | fail => exact .inl .fail
  | @read ts' us' rest left right =>
    rcases h' ts' us' rest (by omega) (by omega) with hrest | hcolon
    · exact .inl (hrest.mono (by omega) (by omega))
    · exact .inr hcolon

theorem AgreeToColon.visible (h : Agree m n k r q)
    (hfield : ∀ ts us, BareFields ts us → ts.length ≤ m → us.length ≤ n →
      Meets 0 ts.length us.length (r ts) (q us) ∨
        ∃ ts' us', r ts = some (.mark ':' :: ts') ∧ q us = some (.mark ':' :: us')) :
    AgreeToColon m n (both visibility r) (both visibility q) := by
  intro ts us hts hm hn
  rw [both, both]
  rcases hts.visibility with hmeets | ⟨ts', us', hbare, hleft, hright, hvts, hvus⟩
  · exact .inl (hmeets.andThen fun _ _ hrest _ _ => (h _ _ hrest (by omega) (by omega)).zero)
  · rw [hvts, hvus]
    rcases hfield ts' us' hbare (by omega) (by omega) with hrest | hcolon
    · exact .inl (hrest.mono (by omega) (by omega))
    · exact .inr hcolon

theorem Agree.visible (h : Agree m n k r q)
    (hfield : ∀ ts us, BareFields ts us → r ts = none ∧ q us = none) :
    Agree m n k (both visibility r) (both visibility q) := by
  intro ts us hts hm hn
  rw [both, both]
  rcases hts.visibility with hmeets | ⟨ts', us', hbare, hleft, hright, hvts, hvus⟩
  · have hrest := hmeets.bind fun _ _ hrest _ _ => h _ _ hrest (by omega) (by omega)
    exact hrest.mono (by omega) (by omega)
  · obtain ⟨hr, hq⟩ := hfield ts' us' hbare
    rw [hvts, hvus]
    simp only [Option.bind_eq_bind, Option.bind_some, hr, hq]
    exact .fail

/-- A list of items up to its closing mark. -/
theorem AgreeToColon.listed_group {item : Reader} (bracket close : Char) (hclose : close ≠ ':')
    (h : ∀ m n, AgreeToColon m n item item) :
    Agree m n 2 (both (mark bracket) fun ts => listed item close ts.length ts)
      (both (mark bracket) fun ts => listed item close ts.length ts) :=
  (Agree.mark bracket).both (Agree.atLength fun _ _ => (h _ _).listed hclose)

theorem agree_namedField : AgreeToColon m n namedField namedField := by
  refine Agree.attributes.both_toColon (AgreeToColon.visible
    (Agree.name.both ((Agree.mark ':').both agree_anyType)) fun ts us hbare _ _ => .inl ?_)
  cases hbare with
  | intro names left right rest =>
    simp only [both, name_of_isName names, Option.bind_eq_bind, Option.bind_some, mark_mark,
      if_true, anyType_of_spellsType left (stops_comma _),
      anyType_of_spellsType right (stops_comma _)]
    exact .read (.cons _ rest) (by simp; omega) (by simp; omega)

theorem agree_positionalField : AgreeToColon m n positionalField positionalField := by
  refine Agree.attributes.both_toColon (AgreeToColon.visible agree_anyType
    fun ts us hbare _ _ => .inr ?_)
  cases hbare with
  | @intro id names x y left right ts us rest =>
    have hname : ∀ {x}, SpellsType x → ∀ us,
        anyType (id :: .mark ':' :: (x ++ us)) = some (.mark ':' :: (x ++ us)) := by
      intro x hx us
      have hcolon := stops_colon hx us
      exact type_of_path names
        (path_of_arguments names (pathArguments_of_stops hcolon _) hcolon) hcolon
    exact ⟨_, _, hname left _, hname right _⟩

theorem agree_namedFields : Agree m n 2 namedFields namedFields :=
  AgreeToColon.listed_group '\x7b' '\x7d' (by decide) fun _ _ => agree_namedField

theorem agree_positionalFields : Agree m n 2 positionalFields positionalFields :=
  AgreeToColon.listed_group '(' ')' (by decide) fun _ _ => agree_positionalField

theorem agree_alternative : AgreeToColon m n alternative alternative := by
  have hfields : Agree m n 2 _ _ :=
    Agree.oneOf (.cons agree_namedFields (.cons agree_positionalFields .nil))
  refine Agree.attributes.both_toColon (AgreeToColon.visible (Agree.name.both hfields.optional)
    fun ts us hbare _ _ => .inr ?_)
  cases hbare with
  | intro names left right rest =>
    simp only [both, name_of_isName names, Option.bind_eq_bind, Option.bind_some]
    exact ⟨_, _, rfl, rfl⟩

end ApiForge.Code
