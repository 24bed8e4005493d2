import ApiForge.Proofs.RespelledFields

/-!
Declarations and units. What a declaration is made of is read by readers that agree, and no
declaration begins with a name and a colon, so none ends inside a field. Declarations hold others,
in as many levels as there are steps; they agree by induction on these, as types do
(`items_agree`). Main statement: tokens that differ in how the types of fields are spelled are a
unit in both spellings or in none (`readsUnit_eq`).
-/

namespace ApiForge.Code

variable {ts us rest : List Token} {f g k l m n : Nat} {r q : Reader}

theorem agree_genericParameter : Agree m n 0 genericParameter genericParameter := by
  intro ts us hts hm hn
  refine (Agree.attributes.on hts).andThen fun ts us hts _ _ => ?_
  have hbounds : Agree ts.length us.length 0 _ _ :=
    ((Agree.mark ':').both agree_anyBounds).optional
  have hlifetime := Agree.lifetime.on hts
  generalize lifetime ts = o, lifetime us = p at hlifetime ⊢
  cases hlifetime with
  | read rest _ _ => exact (hbounds _ _ rest (by omega) (by omega)).mono (by omega) (by omega)
  | fail =>
    have hconst := (Agree.word "const" (by decide)).on hts
    dsimp only
    generalize word "const" ts = o, word "const" us = p at hconst ⊢
    cases hconst with
    | read rest _ _ =>
      have htype := (Agree.name.both ((Agree.mark ':').both agree_anyType)).on rest
      exact htype.mono (by omega) (by omega)
    | fail =>
      have hdefault : Agree ts.length us.length 0 _ _ :=
        ((Agree.mark '=').both agree_anyType).optional
      exact ((Agree.name.both (hbounds.both hdefault)).on hts).zero

theorem agree_genericParameters : Agree m n 0 genericParameters genericParameters :=
  (AgreeToColon.listed_group '<' '>' (by decide) fun _ _ => agree_genericParameter.toColon).optional

theorem agree_condition : Agree m n 1 condition condition := by
  have hsubject : Agree m n 0 _ _ :=
    Agree.oneOf (.cons Agree.lifetime.zero (.cons agree_anyType .nil))
  exact hsubject.both ((Agree.mark ':').both agree_anyBounds)

theorem agree_conditions : Agree m n 0 conditions conditions := by
  refine ((Agree.word _ (by decide)).both (l := 0) fun ts us hts _ _ => ?_).optional
  have hturn : ∀ m n, Agree m n 1 _ _ := fun _ _ =>
    (agree_condition.both (Agree.mark ',')).weaken (by decide)
  refine ((Agree.atLength fun m n => (hturn m n).many).on hts).andThen fun _ _ hrest _ _ => ?_
  exact agree_condition.optional.on hrest

theorem agree_structItem : Agree m n 1 structItem structItem := by
  have htuple : Agree m n 0 _ _ :=
    (agree_positionalFields.both (agree_conditions.both (Agree.mark ';'))).zero
  have hbody : Agree m n 0 _ _ := Agree.oneOf
    (.cons agree_namedFields.zero (.cons htuple (.cons (Agree.mark ';').zero .nil)))
  exact Agree.name.both (agree_genericParameters.both (agree_conditions.both hbody))

theorem agree_enumItem : Agree m n 1 enumItem enumItem := by
  have hbody : Agree m n 0 _ _ :=
    (AgreeToColon.listed_group '\x7b' '\x7d' (by decide) fun _ _ => agree_alternative).zero
  exact Agree.name.both (agree_genericParameters.both (agree_conditions.both hbody))

theorem agree_pattern : Agree m n 0 pattern pattern := by
  intro ts us hts hm hn
  have hmarks : ∀ m n, Agree m n 1 _ _ := fun _ _ => Agree.oneOf
    (.cons (Agree.mark '&') (.cons (Agree.word "mut" (by decide))
      (.cons (Agree.word "ref" (by decide)) .nil)))
  refine ((Agree.atLength fun m n => (hmarks m n).many).on hts).andThen fun ts us hts _ _ => ?_
  have hname : Agree ts.length us.length 0 _ _ := Agree.oneOf (.cons Agree.name.zero
    (.cons (Agree.word "_" (by decide)).zero (.cons (Agree.group '(' rfl).zero .nil)))
  exact hname.on hts

theorem agree_selfParameter : Agree m n 0 selfParameter selfParameter := by
  intro ts us hts hm hn
  have hreference : Agree ts.length us.length 0 _ _ :=
    ((Agree.mark '&').both Agree.lifetime.optional).optional
  refine (hreference.on hts).andThen fun ts us hts _ _ => ?_
  have hself : Agree ts.length us.length 0 _ _ :=
    ((Agree.word "mut" (by decide)).optional.both (Agree.word "self" (by decide))).zero
  refine (hself.on hts).andThen fun ts us hts _ _ => ?_
  exact ((Agree.mark ':').both agree_anyType).optional.on hts

theorem agree_parameter : Agree m n 0 parameter parameter := by
  have hnamed : Agree m n 0 _ _ :=
    (agree_pattern.both ((Agree.mark ':').both agree_anyType)).zero
  exact Agree.attributes.both (Agree.oneOf (.cons agree_selfParameter (.cons hnamed .nil)))

theorem agree_functionItem : Agree m n 1 functionItem functionItem := by
  intro ts us hts hm hn
  refine ((Agree.name.both agree_genericParameters).on hts).andThen fun ts us hts _ _ => ?_
  have hparameters : Agree ts.length us.length 0 _ _ :=
    (AgreeToColon.listed_group '(' ')' (by decide) fun _ _ => agree_parameter.toColon).zero
  refine (hparameters.on hts).andThen fun ts us hts _ _ => ?_
  refine ((types_agree _ _).result _ _ hts (by rw [steps]; omega) (by rw [steps]; omega)).andThen
    fun ts us hts _ _ => ?_
  have hbody : Agree ts.length us.length 0 _ _ :=
    Agree.oneOf (.cons (Agree.group '\x7b' rfl).zero (.cons (Agree.mark ';').zero .nil))
  exact (agree_conditions.both hbody).on hts

theorem agree_constantItem : Agree m n 0 constantItem constantItem := by
  intro ts us hts hm hn
  have hname : Agree ts.length us.length 1 _ _ :=
    Agree.oneOf (.cons Agree.name (.cons (Agree.word "_" (by decide)) .nil))
  have htyped := (hname.both ((Agree.mark ':').both agree_anyType)).zero
  refine (htyped.on hts).andThen fun ts us hts _ _ => ?_
  rw [(Agree.mark '=').fits_eq hts]
  split
  · exact ((Agree.atLength fun _ _ => Agree.value).on hts).zero
  · exact ((Agree.mark ';').on hts).zero

theorem agree_aliasItem : Agree m n 0 aliasItem aliasItem := by
  intro ts us hts hm hn
  refine ((Agree.name.both agree_genericParameters).zero.on hts).andThen fun ts us hts _ _ => ?_
  refine (((Agree.mark ':').both agree_anyBounds).optional.on hts).andThen fun ts us hts _ _ => ?_
  have hvalue : Agree ts.length us.length 0 _ _ :=
    ((Agree.mark '=').both agree_anyType).optional
  exact ((hvalue.both (agree_conditions.both (Agree.mark ';'))).on hts).zero

/-- What the first token of an import says about it. -/
inductive ImportHead where
  | all | group | path

def importHead : Token → ImportHead
  | .mark '*' => .all
  | .mark '\x7b' => .group
  | _ => .path

/-- Reads a name and what is imported of it, or the name that it gets. -/
def importPath (n : Nat) : Reader := fun ts => do
  let rest ← segmentName ts
  if fits colons rest then importTree n rest
  else optional (both (word "as") (oneOf [name, word "_"])) rest

/-- Reads what is imported, behind the colons that may stand before it. -/
def importBody (n : Nat) : Reader
  | [] => none
  | t :: ts =>
    match importHead t with
    | .all => some ts
    | .group => listed (importTree n) '\x7d' ts.length ts
    | .path => importPath n (t :: ts)

theorem importTree_succ (n : Nat) : importTree (n + 1) = both (optional colons) (importBody n) := by
  funext ts
  rw [importTree, both]
  refine congrArg (optional colons ts).bind (funext fun rest => ?_)
  cases rest with
  | nil => rfl
  | cons t rest =>
    rw [importBody]
    split
    case h_3 h₁ h₂ =>
      have hpath : importHead t = .path := by
        rw [importHead.eq_def]
        split
        · cases h₁ _ rfl
        · cases h₂ _ rfl
        · rfl
      rw [hpath]
      rfl
    all_goals
      rename_i heq
      cases heq
      rfl

theorem agree_importBody (h : Agree m n 0 (importTree m) (importTree n)) :
    Agree (m + 1) (n + 1) 0 (importBody m) (importBody n) := by
  intro ts us hts hm hn
  have hpath : Meets 0 ts.length us.length (importPath m ts) (importPath n us) := by
    refine Meets.zero ((Agree.segmentName.on hts).andThen fun ts us hts _ _ => ?_)
    rw [Agree.colons.fits_eq hts]
    split
    · exact h ts us hts (by omega) (by omega)
    · have hname : Agree ts.length us.length 1 _ _ :=
        Agree.oneOf (.cons Agree.name (.cons (Agree.word "_" (by decide)) .nil))
      exact ((Agree.word "as" (by decide)).both hname).optional.on hts
  cases hts with
  | nil => exact .fail
  | field => exact hpath
  | @cons t ts us rest =>
    rw [List.length_cons] at hm hn
    rw [importBody, importBody]
    cases importHead t with
    | all => exact .read rest (by simp) (by simp)
    | group =>
      have htree : Agree ts.length us.length 0 _ _ :=
        h.mono (by omega) (by omega) (Nat.le_refl 0)
      exact ((htree.toColon.listed (by decide)).on rest).zero.succ
    | path => exact hpath

theorem importTree_nil (n : Nat) : importTree n [] = none := by
  cases n with
  | zero => rfl
  | succ n => rw [importTree_succ]; rfl

theorem agree_importTree : Agree m n 0 (importTree m) (importTree n) := by
  induction m generalizing n with
  | zero =>
    intro ts us hts hm hn
    obtain rfl := List.eq_nil_of_length_eq_zero (Nat.le_zero.mp hm)
    obtain rfl := hts.nil_iff.mp rfl
    rw [importTree_nil, importTree_nil]
    exact .fail
  | succ m ih =>
    cases n with
    | zero =>
      intro ts us hts hm hn
      obtain rfl := List.eq_nil_of_length_eq_zero (Nat.le_zero.mp hn)
      obtain rfl := hts.nil_iff.mpr rfl
      rw [importTree_nil, importTree_nil]
      exact .fail
    | succ n =>
      rw [importTree_succ, importTree_succ]
      exact Agree.colons.optional.both (agree_importBody ih)

theorem agree_importItem : Agree m n 0 importItem importItem := fun _ _ hts _ _ =>
  ((agree_importTree.both (Agree.mark ';')).on hts).zero

theorem agree_macroItem : Agree m n 1 macroItem macroItem := by
  intro ts us hts hm hn
  refine Meets.bind (k := 0) (l := 1) ((types_agree _ _).path _ _ hts (by rw [steps]; omega)
    (by rw [steps]; omega)) fun ts us hts _ _ => ?_
  refine (((Agree.mark '!').both Agree.name.optional).on hts).andThen fun ts us hts _ _ => ?_
  have hgroups : Agree ts.length us.length 2 _ _ :=
    Agree.oneOf (.cons (Agree.group '(' rfl) (.cons (Agree.group '[' rfl) .nil))
  have hends : Agree ts.length us.length 0 _ _ := Agree.oneOf
    (.cons (Agree.group '\x7b' rfl).zero (.cons (hgroups.both (Agree.mark ';')).zero .nil))
  exact hends.on hts

theorem agree_functionModifiers : Agree m n 0 functionModifiers functionModifiers := by
  have hextern : Agree m n 0 _ _ :=
    ((Agree.word "extern" (by decide)).both Agree.literal.optional).optional
  exact (Agree.word _ (by decide)).optional.both ((Agree.word _ (by decide)).optional.both
    ((Agree.word _ (by decide)).optional.both hextern))

/-! Declarations. -/

def declarations (n : Nat) : List Reader :=
  [both (word "use") importItem,
    both (word "struct") structItem,
    both (word "enum") enumItem,
    both functionModifiers (both (word "fn") functionItem),
    both (oneOf [word "const", both (word "static") (optional (word "mut"))]) constantItem,
    both (word "type") aliasItem,
    both (word "impl") (implementation n),
    both (word "mod") (both name (oneOf [mark ';', both (mark '\x7b') (itemsUntilClosed n)])),
    macroItem]

theorem item_succ (n : Nat) :
    item (n + 1) = both attributes (both visibility (oneOf (declarations n))) := by
  funext ts
  rw [item, both, both]
  cases attributes ts with
  | none => rfl
  | some ts => rfl

/-- The readers of declarations agree, with their ranks. -/
structure ItemsAgree (f g : Nat) : Prop where
  item : ∀ ts us, Respelled ts us → 4 * ts.length + 1 ≤ f → 4 * us.length + 1 ≤ g →
    Meets 1 ts.length us.length (item f ts) (item g us)
  implementation : AgreeWithin f g 1 (implementation f) (implementation g)
  itemsUntilClosed : AgreeWithin f g 2 (itemsUntilClosed f) (itemsUntilClosed g)

theorem Agree.both_within {rank : Nat} {r' q' : Reader} (h : Agree m n 1 r q)
    (h' : AgreeWithin f g rank r' q') (hf : 4 * m + rank ≤ f + 4) (hg : 4 * n + rank ≤ g + 4) :
    Agree m n 1 (both r r') (both q q') := fun ts us hts hm hn =>
  (h ts us hts hm hn).andThen fun _ _ hrest _ _ => h' _ _ hrest (by omega) (by omega)

namespace ItemsAgree

variable (ih : ItemsAgree f g)

include ih

theorem declarations (hf : 4 * m + 1 ≤ f + 1) (hg : 4 * n + 1 ≤ g + 1) :
    List.Forall₂ (Agree m n 1) (declarations f) (declarations g) := by
  have hstatic : Agree m n 1 _ _ :=
    (Agree.word "static" (by decide)).both (Agree.word "mut" (by decide)).optional
  have hkeyword : Agree m n 1 _ _ :=
    Agree.oneOf (.cons (Agree.word "const" (by decide)) (.cons hstatic .nil))
  have hbody : Agree m n 1 _ _ :=
    (Agree.mark '\x7b').both_within ih.itemsUntilClosed (by omega) (by omega)
  have hmodule := Agree.oneOf (.cons (Agree.mark ';') (.cons hbody .nil))
  exact .cons ((Agree.word _ (by decide)).both agree_importItem)
    (.cons ((Agree.word _ (by decide)).both agree_structItem.zero)
    (.cons ((Agree.word _ (by decide)).both agree_enumItem.zero)
    (.cons (agree_functionModifiers.both ((Agree.word _ (by decide)).both agree_functionItem.zero))
    (.cons (hkeyword.both agree_constantItem)
    (.cons ((Agree.word _ (by decide)).both agree_aliasItem)
    (.cons ((Agree.word _ (by decide)).both_within ih.implementation (by omega) (by omega))
    (.cons ((Agree.word _ (by decide)).both (Agree.name.both hmodule).zero)
    (.cons agree_macroItem .nil))))))))

end ItemsAgree

theorem oneOf_eq_none {rs : List Reader} (h : ∀ r ∈ rs, r ts = none) : oneOf rs ts = none := by
  induction rs with
  | nil => rfl
  | cons r rs ih =>
    rw [List.forall_mem_cons] at h
    rw [oneOf, h.1, ih h.2]
    rfl

section NoDeclaration

variable {t : Token} (ht : t.isName = true)

include ht

theorem both_word_of_isName {w : String} (hw : isKeyword w.toList = true) (r : Reader)
    (ts : List Token) : both (word w) r (t :: ts) = none := by
  rw [both, word_of_isName ht hw]
  rfl

theorem functionModifiers_of_isName (ts : List Token) :
    functionModifiers (t :: ts) = some (t :: ts) := by
  have hnone : ∀ r : Reader, r (t :: ts) = none → optional r (t :: ts) = some (t :: ts) := by
    intro r hr
    rw [optional, hr]
    rfl
  have hkeyword : isKeyword "const".toList = true ∧ isKeyword "async".toList = true ∧
      isKeyword "unsafe".toList = true ∧ isKeyword "extern".toList = true := by
    decide
  obtain ⟨hconst, hasync, hunsafe, hextern⟩ := hkeyword
  rw [functionModifiers, both, hnone _ (word_of_isName ht hconst ts), Option.bind_eq_bind,
    Option.bind_some, both, hnone _ (word_of_isName ht hasync ts), Option.bind_eq_bind,
    Option.bind_some, both, hnone _ (word_of_isName ht hunsafe ts), Option.bind_eq_bind,
    Option.bind_some]
  exact hnone _ (both_word_of_isName ht hextern _ ts)

/-- No declaration begins with a name and a single colon. -/
theorem declarations_of_isName {x : List Token} (hx : SpellsType x) (n : Nat) (ts : List Token) :
    oneOf (declarations n) (t :: .mark ':' :: (x ++ ts)) = none := by
  have hkeyword : isKeyword "use".toList = true ∧ isKeyword "struct".toList = true ∧
      isKeyword "enum".toList = true ∧ isKeyword "fn".toList = true ∧
      isKeyword "const".toList = true ∧ isKeyword "static".toList = true ∧
      isKeyword "type".toList = true ∧ isKeyword "impl".toList = true ∧
      isKeyword "mod".toList = true := by
    decide
  obtain ⟨huse, hstruct, henum, hfn, hconst, hstatic, htype, himpl, hmod⟩ := hkeyword
  have hfunction : ∀ ts,
      both functionModifiers (both (word "fn") functionItem) (t :: ts) = none := by
    intro ts
    rw [both, functionModifiers_of_isName ht]
    exact both_word_of_isName ht hfn _ ts
  have hconstant : ∀ ts, both (oneOf [word "const", both (word "static") (optional (word "mut"))])
      constantItem (t :: ts) = none := by
    intro ts
    rw [both, oneOf, word_of_isName ht hconst, oneOf, both_word_of_isName ht hstatic]
    rfl
  have hmacro : macroItem (t :: .mark ':' :: (x ++ ts)) = none := by
    have hcolon := stops_colon hx ts
    rw [macroItem, steps, path_of_arguments ht (pathArguments_of_stops hcolon _) hcolon]
    rfl
  refine oneOf_eq_none ?_
  simp only [declarations, List.forall_mem_cons]
  exact ⟨both_word_of_isName ht huse _ _, both_word_of_isName ht hstruct _ _,
    both_word_of_isName ht henum _ _, hfunction _, hconstant _, both_word_of_isName ht htype _ _,
    both_word_of_isName ht himpl _ _, both_word_of_isName ht hmod _ _, hmacro,
    List.forall_mem_nil _⟩

end NoDeclaration

namespace ItemsAgree

variable (ih : ItemsAgree f g)

include ih

theorem item_succ (hts : Respelled ts us) (hf : 4 * ts.length + 1 ≤ f + 1)
    (hg : 4 * us.length + 1 ≤ g + 1) :
    Meets 1 ts.length us.length (Code.item (f + 1) ts) (Code.item (g + 1) us) := by
  rw [Code.item_succ, Code.item_succ]
  have hvisible := Agree.visible (Agree.oneOf (ih.declarations hf hg)) fun ts us hbare => by
    cases hbare with
    | intro names left right rest =>
      exact ⟨declarations_of_isName names left f _, declarations_of_isName names right g _⟩
  have hitem := (Agree.attributes.both hvisible).on hts
  exact hitem.mono (by omega) (by omega)

theorem implementation_succ :
    AgreeWithin (f + 1) (g + 1) 1 (Code.implementation (f + 1)) (Code.implementation (g + 1)) := by
  intro ts us hts hf hg
  refine (agree_genericParameters.on hts).andThen fun ts us hts _ _ => ?_
  refine (((Agree.mark '!').optional.both agree_anyType).on hts).andThen fun ts us hts _ _ => ?_
  have hfor : Agree ts.length us.length 0 _ _ :=
    ((Agree.word "for" (by decide)).both agree_anyType).optional
  refine ((hfor.both agree_conditions).on hts).andThen fun ts us hts _ _ => ?_
  exact (((Agree.mark '\x7b').both_within ih.itemsUntilClosed (by omega) (by omega)).on hts).zero

theorem itemsUntilClosed_succ : AgreeWithin (f + 1) (g + 1) 2 (Code.itemsUntilClosed (f + 1))
    (Code.itemsUntilClosed (g + 1)) := by
  intro ts us hts hf hg
  have hclosed := (Agree.mark '\x7d').on hts
  rw [Code.itemsUntilClosed, Code.itemsUntilClosed]
  generalize mark '\x7d' ts = o, mark '\x7d' us = p at hclosed ⊢
  cases hclosed with
  | read rest _ _ => exact .read rest (by omega) (by omega)
  | fail =>
    refine Meets.zero ((ih.item ts us hts (by omega) (by omega)).andThen fun _ _ hrest _ _ => ?_)
    exact ih.itemsUntilClosed _ _ hrest (by omega) (by omega)

end ItemsAgree

theorem items_agree (f g : Nat) : ItemsAgree f g := by
  induction f generalizing g with
  | zero => constructor <;> exact fun _ _ _ h _ => absurd h (by omega)
  | succ f ih =>
    cases g with
    | zero => constructor <;> exact fun _ _ _ _ h => absurd h (by omega)
    | succ g =>
      have h := ih g
      exact { item := fun _ _ hts => h.item_succ hts, implementation := h.implementation_succ,
              itemsUntilClosed := h.itemsUntilClosed_succ }

/-! Units. -/

theorem areItems_nil (n : Nat) : areItems n [] = true := by
  cases n <;> rfl

theorem areItems_succ (n : Nat) (ts : List Token) :
    areItems (n + 1) ts = (ts.isEmpty || match item (steps ts) ts with
      | some rest => areItems n rest
      | none => false) := by
  cases ts <;> rfl

theorem areItems_eq (hts : Respelled ts us) (hf : ts.length ≤ f) (hg : us.length ≤ g) :
    areItems f ts = areItems g us := by
  induction f generalizing g ts us with
  | zero =>
    obtain rfl := List.eq_nil_of_length_eq_zero (Nat.le_zero.mp hf)
    obtain rfl := hts.nil_iff.mp rfl
    rw [areItems_nil, areItems_nil]
  | succ f ih =>
    cases g with
    | zero =>
      obtain rfl := List.eq_nil_of_length_eq_zero (Nat.le_zero.mp hg)
      obtain rfl := hts.nil_iff.mpr rfl
      rw [areItems_nil, areItems_nil]
    | succ g =>
      have hitem := (items_agree _ _).item _ _ hts (Nat.le_add_right _ 3) (Nat.le_add_right _ 3)
      have hempty : ts.isEmpty = us.isEmpty := by
        rw [Bool.eq_iff_iff, List.isEmpty_iff, List.isEmpty_iff, hts.nil_iff]
      rw [areItems_succ, areItems_succ, hempty]
      simp only [steps]
      generalize item (4 * ts.length + 4) ts = o, item (4 * us.length + 4) us = p at hitem ⊢
      cases hitem with
      | fail => rfl
      | read rest _ _ => exact congrArg (us.isEmpty || ·) (ih rest (by omega) (by omega))

theorem agree_unitAttributes : Agree m n 0 unitAttributes unitAttributes :=
  Agree.atLength fun _ _ =>
    Agree.many (((Agree.marks '#' '!').both (Agree.group '[' rfl)).weaken (by decide))

/-- Whether tokens are a unit. -/
def readsUnit (ts : List Token) : Bool :=
  match unitAttributes ts with
  | none => false
  | some rest => areItems rest.length rest

theorem readsUnit_eq (hts : Respelled ts us) : readsUnit ts = readsUnit us := by
  have hattributes := agree_unitAttributes.on hts
  rw [readsUnit, readsUnit]
  generalize unitAttributes ts = o, unitAttributes us = p at hattributes ⊢
  cases hattributes with
  | fail => rfl
  | read rest => exact areItems_eq rest (Nat.le_refl _) (Nat.le_refl _)

end ApiForge.Code
