import ApiForge.Proofs.Respelling

/-!
Types. The readers of types call each other, each with one step less than it may take itself, and
the steps that they are given go with the length of what they read. So the judgement is about steps:
two readers agree on lists that leave them steps enough (`AgreeWithin`), and how many more a reader
needs than four for each token is its rank. A reader that calls another on the same tokens has the
higher rank of the two. Main statement: the readers of types agree, whatever their steps are
(`types_agree`).

The readers are told by what the first token says; one equation for each of them comes first.
-/

namespace ApiForge.Code

variable {ts us : List Token} {f g k l m n : Nat} {r q : Reader}

/-- What the first token of a type says about it. -/
inductive TypeHead where
  | tuple | slice | never | pointer | reference | qualified | inferred | function | bounds | path

def typeHead : Token → TypeHead
  | .mark '(' => .tuple
  | .mark '[' => .slice
  | .mark '!' => .never
  | .mark '*' => .pointer
  | .mark '&' => .reference
  | .mark '<' => .qualified
  | .word ['_'] => .inferred
  | .word ['f', 'n'] => .function
  | .word ['i', 'm', 'p', 'l'] => .bounds
  | .word ['d', 'y', 'n'] => .bounds
  | _ => .path

theorem plainType_cons (n : Nat) (t : Token) (ts : List Token) :
    plainType (n + 1) (t :: ts) =
      match typeHead t with
      | .tuple => listed (type n) ')' ts.length ts
      | .slice => do
        let rest ← type n ts
        if fits (mark ';') rest then closed [']'] rest else mark ']' rest
      | .never => some ts
      | .pointer => do plainType n (← oneOf [word "const", word "mut"] ts)
      | .reference => do plainType n (← both (optional lifetime) (optional (word "mut")) ts)
      | .qualified => do
        let rest ← type n ts
        let rest ← match word "as" rest with
          | some rest => path n rest
          | none => some rest
        if fits (both (mark '>') colons) rest then path n (← mark '>' rest) else none
      | .inferred => some ts
      | .function => do
        result n (← both (mark '(') (fun ts => listed (type n) ')' ts.length ts) ts)
      | .bounds => bounds n ts
      | .path =>
        if beginsPath (t :: ts) then do optional macroCall (← path n (t :: ts)) else none := by
  rw [plainType.eq_def]
  dsimp only
  split
  case h_11 h₁ h₂ h₃ h₄ h₅ h₆ h₇ h₈ h₉ h₁₀ =>
    have hpath : typeHead t = .path := by
      rw [typeHead.eq_def]
      split
      case h_11 => rfl
      all_goals first
        | cases h₁ _ rfl | cases h₂ _ rfl | cases h₃ _ rfl | cases h₄ _ rfl | cases h₅ _ rfl
        | cases h₆ _ rfl | cases h₇ _ rfl | cases h₈ _ rfl | cases h₉ _ rfl | cases h₁₀ _ rfl
    rw [hpath]
  all_goals
    rename_i heq
    cases heq
    rfl

/-- Reads the colons that may stand before the arguments of a name. -/
def beforeArguments : Reader :=
  optional fun ts => if fits (both colons (mark '<')) ts then colons ts else none

inductive ArgumentsHead
  | generic | function | absent

def argumentsHead : Token → ArgumentsHead
  | .mark '<' => .generic
  | .mark '(' => .function
  | _ => .absent

theorem pathArguments_of_cons {n : Nat} {ts rest : List Token} {t : Token}
    (h : beforeArguments ts = some (t :: rest)) :
    pathArguments (n + 1) ts =
      match argumentsHead t with
      | .generic => listed (typeArgument n) '>' rest.length rest
      | .function => do result n (← listed (type n) ')' rest.length rest)
      | .absent => some ts := by
  rw [pathArguments, ← beforeArguments, h]
  split
  · next h => cases h; rfl
  · next h => cases h; rfl
  · next h₁ h₂ =>
    have habsent : argumentsHead t = .absent := by
      rw [argumentsHead.eq_def]
      split
      · cases h₁ _ rfl
      · cases h₂ _ rfl
      · rfl
    rw [habsent]

inductive BoundHead
  | lifetime | grouped | path

def boundHead : Token → BoundHead
  | .lifetime => .lifetime
  | .mark '(' => .grouped
  | _ => .path

theorem bound_cons (n : Nat) (t : Token) (ts : List Token) :
    bound (n + 1) (t :: ts) =
      match boundHead t with
      | .path => do
        let rest ← optional (mark '?') (t :: ts)
        if beginsPath rest then path n rest else none
      | .grouped => do mark ')' (← bound n ts)
      | .lifetime => some ts := by
  rw [bound.eq_def]
  dsimp only
  split
  case h_3 h₁ h₂ =>
    have hpath : boundHead t = .path := by
      rw [boundHead.eq_def]
      split
      · cases h₁ _ rfl
      · cases h₂ _ rfl
      · rfl
    rw [hpath]
  all_goals
    rename_i heq
    cases heq
    rfl

inductive ArgumentHead
  | lifetime | value | negative | block | type

def argumentHead : Token → ArgumentHead
  | .lifetime => .lifetime
  | .literal => .value
  | .word ['t', 'r', 'u', 'e'] => .value
  | .word ['f', 'a', 'l', 's', 'e'] => .value
  | .mark '-' => .negative
  | .mark '\x7b' => .block
  | _ => .type

/-- Reads an argument without a name before it. -/
def plainArgument (n : Nat) : Reader
  | [] => type n []
  | t :: ts =>
    match argumentHead t with
    | .lifetime => if fits (mark '+') ts then type n (t :: ts) else some ts
    | .value => some ts
    | .negative => literal ts
    | .block => group '\x7b' (t :: ts)
    | .type => type n (t :: ts)

theorem typeArgument_eq (n : Nat) (ts : List Token) :
    typeArgument (n + 1) ts =
      if fits (both name (mark '=')) ts then do typeArgument n (← both name (mark '=') ts)
      else if fits (both name (mark ':')) ts && !fits (both name colons) ts then do
        bounds n (← both name (mark ':') ts)
      else plainArgument n ts := by
  rw [typeArgument.eq_def]
  refine if_congr Iff.rfl rfl (if_congr Iff.rfl rfl ?_)
  cases ts with
  | nil => rfl
  | cons t ts =>
    rw [plainArgument]
    split
    case h_7 h₁ h₂ h₃ h₄ h₅ h₆ =>
      have htype : argumentHead t = .type := by
        rw [argumentHead.eq_def]
        split
        case h_7 => rfl
        all_goals first
          | cases h₁ _ rfl | cases h₂ _ rfl | cases h₃ _ rfl | cases h₄ _ rfl | cases h₅ _ rfl
          | cases h₆ _ rfl
      rw [htype]
    all_goals
      rename_i heq
      cases heq
      rfl

/-- Two readers agree on lists that four steps for each token and `rank` more are enough for. -/
def AgreeWithin (f g rank : Nat) (r q : Reader) : Prop :=
  ∀ ts us, Respelled ts us → 4 * ts.length + rank ≤ f → 4 * us.length + rank ≤ g →
    Meets 0 ts.length us.length (r ts) (q us)

namespace AgreeWithin

variable {rank : Nat}

theorem agree (h : AgreeWithin f g rank r q) (hm : 4 * m + rank ≤ f) (hn : 4 * n + rank ≤ g) :
    Agree m n 0 r q := fun ts us hts _ _ => h ts us hts (by omega) (by omega)

protected theorem listed (h : AgreeWithin f g rank r q) (close : Char) (hclose : close ≠ ':')
    (hts : Respelled ts us) (hf : 4 * ts.length + rank ≤ f) (hg : 4 * us.length + rank ≤ g) :
    Meets 0 ts.length us.length (listed r close ts.length ts) (listed q close us.length us) :=
  ((h.agree hf hg).toColon.listed hclose ts us hts (Nat.le_refl _) (Nat.le_refl _)).zero

end AgreeWithin

/-- The readers of types agree, with their ranks. -/
structure TypesAgree (f g : Nat) : Prop where
  protected path : AgreeWithin f g 1 (path f) (path g)
  protected pathArguments : AgreeWithin f g 1 (pathArguments f) (pathArguments g)
  protected plainType : AgreeWithin f g 2 (plainType f) (plainType g)
  protected bound : AgreeWithin f g 2 (bound f) (bound g)
  protected type : AgreeWithin f g 3 (type f) (type g)
  protected bounds : AgreeWithin f g 3 (bounds f) (bounds g)
  protected result : AgreeWithin f g 3 (result f) (result g)
  protected typeArgument : AgreeWithin f g 4 (typeArgument f) (typeArgument g)

namespace TypesAgree

variable (ih : TypesAgree f g)

include ih

theorem plainType_succ :
    AgreeWithin (f + 1) (g + 1) 2 (plainType (f + 1)) (plainType (g + 1)) := by
  intro ts us hts hf hg
  have hall := hts
  cases hts with
  | nil => exact .fail
  | field =>
    rw [plainType_cons, plainType_cons, show typeHead publicWord = .path from rfl]
    simp only [beginsPath_public]
    exact .fail
  | @cons t ts us rest =>
    rw [List.length_cons] at hf hg
    rw [plainType_cons, plainType_cons]
    cases typeHead t with
    | tuple => exact (ih.type.listed ')' (by decide) rest (by omega) (by omega)).succ
    | slice =>
      refine Meets.succ ((ih.type ts us rest (by omega) (by omega)).andThen fun _ _ hrest _ _ => ?_)
      rw [(Agree.mark ';').fits_eq hrest]
      split
      · exact (hrest.closed _).zero
      · exact ((Agree.mark ']').on hrest).zero
    | never => exact .read rest (by simp) (by simp)
    | pointer =>
      have hword : Agree ts.length us.length 1 _ _ := Agree.oneOf
        (.cons (Agree.word "const" (by decide))
          (.cons (Agree.word "mut" (by decide)) .nil))
      refine Meets.succ ((hword.on rest).zero.andThen fun _ _ hrest _ _ => ?_)
      exact ih.plainType _ _ hrest (by omega) (by omega)
    | reference =>
      have hmarks : Agree ts.length us.length 0 _ _ :=
        Agree.lifetime.optional.both (Agree.word "mut" (by decide)).optional
      refine Meets.succ ((hmarks.on rest).andThen fun _ _ hrest _ _ => ?_)
      exact ih.plainType _ _ hrest (by omega) (by omega)
    | qualified =>
      have hclose : ∀ ts' us', Respelled ts' us' → ts'.length ≤ ts.length →
          us'.length ≤ us.length →
          Meets 0 ts'.length us'.length
            (if fits (both (mark '>') colons) ts' then do path f (← mark '>' ts') else none)
            (if fits (both (mark '>') colons) us' then do path g (← mark '>' us') else none) := by
        intro ts' us' hrest _ _
        rw [((Agree.mark '>').both Agree.colons).fits_eq hrest]
        split
        · refine ((Agree.mark '>').on hrest).zero.andThen fun _ _ hrest _ _ => ?_
          exact ih.path _ _ hrest (by omega) (by omega)
        · exact .fail
      refine Meets.succ ((ih.type ts us rest (by omega) (by omega)).andThen
        fun ts' us' hrest _ _ => ?_)
      have has := (Agree.word "as" (by decide)).on hrest
      dsimp only
      generalize word "as" ts' = o, word "as" us' = p at has ⊢
      cases has with
      | fail => exact hclose _ _ hrest (by omega) (by omega)
      | read rest _ _ =>
        have hpath := ih.path _ _ rest (by omega) (by omega)
        exact (hpath.andThen fun _ _ hrest _ _ => hclose _ _ hrest (by omega) (by omega)).mono
          (by omega) (by omega)
    | inferred => exact .read rest (by simp) (by simp)
    | function =>
      have hlist : Agree ts.length us.length 0
          (fun ts => listed (type f) ')' ts.length ts)
          (fun us => listed (type g) ')' us.length us) := fun ts us hts _ _ =>
        ih.type.listed ')' (by decide) hts (by omega) (by omega)
      have hparameters := (Agree.mark '(').both hlist
      refine Meets.succ ((hparameters.on rest).zero.andThen fun _ _ hrest _ _ => ?_)
      exact ih.result _ _ hrest (by omega) (by omega)
    | bounds => exact (ih.bounds ts us rest (by omega) (by omega)).succ
    | path =>
      dsimp only
      rw [hall.beginsPath_eq]
      split
      · refine (ih.path _ _ hall (by simp; omega) (by simp; omega)).andThen fun _ _ hrest _ _ => ?_
        exact Agree.macroCall.optional.on hrest
      · exact .fail

theorem type_succ : AgreeWithin (f + 1) (g + 1) 3 (type (f + 1)) (type (g + 1)) := by
  intro ts us hts hf hg
  have hplus : ∀ ts' us', Respelled ts' us' → ts'.length ≤ ts.length → us'.length ≤ us.length →
      Meets 0 ts'.length us'.length
        (match mark '+' ts' with | some rest => bounds f rest | none => some ts')
        (match mark '+' us' with | some rest => bounds g rest | none => some us') := by
    intro ts' us' hrest _ _
    have hmark := (Agree.mark '+').on hrest
    generalize mark '+' ts' = o, mark '+' us' = p at hmark ⊢
    cases hmark with
    | fail => exact .read hrest (by omega) (by omega)
    | read rest _ _ =>
      exact (ih.bounds _ _ rest (by omega) (by omega)).mono (by omega) (by omega)
  rw [type, type, hts.beginsPath_eq, Agree.lifetime.fits_eq hts,
    (Agree.lifetime.both (Agree.mark '+')).fits_eq hts]
  dsimp only
  split
  · split
    · exact (Agree.lifetime.on hts).zero.andThen fun _ _ hrest _ _ =>
        hplus _ _ hrest (by omega) (by omega)
    · exact (ih.plainType _ _ hts (by omega) (by omega)).andThen fun _ _ hrest _ _ =>
        hplus _ _ hrest (by omega) (by omega)
  · exact ih.plainType _ _ hts (by omega) (by omega)

theorem result_succ :
    AgreeWithin (f + 1) (g + 1) 3 (result (f + 1)) (result (g + 1)) := by
  intro ts us hts hf hg
  have harrow := (Agree.marks '-' '>').on hts
  rw [result, result]
  generalize marks ['-', '>'] ts = o, marks ['-', '>'] us = p at harrow ⊢
  cases harrow with
  | fail => exact .read hts (by omega) (by omega)
  | read rest _ _ =>
    exact (ih.plainType _ _ rest (by omega) (by omega)).mono (by omega) (by omega)

theorem path_succ : AgreeWithin (f + 1) (g + 1) 1 (path (f + 1)) (path (g + 1)) := by
  intro ts us hts hf hg
  refine (Agree.colons.optional.on hts).andThen fun ts us hts _ _ => ?_
  refine Meets.zero ((Agree.segmentName.on hts).andThen fun ts us hts _ _ => ?_)
  refine (ih.pathArguments ts us hts (by omega) (by omega)).andThen fun ts us hts _ _ => ?_
  rw [Agree.colons.fits_eq hts]
  split
  · exact ih.path ts us hts (by omega) (by omega)
  · exact .read hts (Nat.le_refl _) (Nat.le_refl _)

theorem pathArguments_succ :
    AgreeWithin (f + 1) (g + 1) 1 (pathArguments (f + 1)) (pathArguments (g + 1)) := by
  intro ts us hts hf hg
  have hbefore : Meets 0 ts.length us.length (beforeArguments ts) (beforeArguments us) := by
    refine Agree.on (Agree.optional (k := 0) fun ts us hts _ _ => ?_) hts
    rw [(Agree.colons.both (Agree.mark '<')).fits_eq hts]
    split
    · exact (Agree.colons.on hts).zero
    · exact .fail
  generalize ho : beforeArguments ts = o, hp : beforeArguments us = p at hbefore
  have hnone : Meets 0 ts.length us.length (some ts) (some us) := .read hts (by omega) (by omega)
  cases hbefore with
  | fail =>
    rw [pathArguments, pathArguments, ← beforeArguments, ho, hp]
    exact hnone
  | read rest _ _ =>
    cases rest with
    | nil =>
      rw [pathArguments, pathArguments, ← beforeArguments, ho, hp]
      exact hnone
    | field =>
      rw [pathArguments_of_cons ho, pathArguments_of_cons hp]
      exact hnone
    | @cons t ts' us' rest =>
      simp only [List.length_cons] at *
      rw [pathArguments_of_cons ho, pathArguments_of_cons hp]
      cases argumentsHead t with
      | generic =>
        exact (ih.typeArgument.listed '>' (by decide) rest (by omega) (by omega)).mono (by omega)
          (by omega)
      | function =>
        have hlist := ih.type.listed ')' (by decide) rest (by omega) (by omega)
        refine Meets.mono (hlist.andThen fun _ _ hrest _ _ => ?_) (by omega) (by omega)
        exact ih.result _ _ hrest (by omega) (by omega)
      | absent => exact hnone

theorem bounds_succ :
    AgreeWithin (f + 1) (g + 1) 3 (bounds (f + 1)) (bounds (g + 1)) := by
  intro ts us hts hf hg
  have hbound := ih.bound _ _ hts (by omega) (by omega)
  rw [bounds, bounds]
  generalize bound f ts = o, bound g us = p at hbound ⊢
  cases hbound with
  | fail => exact .read hts (by omega) (by omega)
  | @read ts' us' rest _ _ =>
    have hplus := (Agree.mark '+').on rest
    dsimp only
    generalize mark '+' ts' = o, mark '+' us' = p at hplus ⊢
    cases hplus with
    | fail => exact .read rest (by omega) (by omega)
    | read rest _ _ =>
      exact (ih.bounds _ _ rest (by omega) (by omega)).mono (by omega) (by omega)

theorem bound_succ :
    AgreeWithin (f + 1) (g + 1) 2 (bound (f + 1)) (bound (g + 1)) := by
  intro ts us hts hf hg
  have hpath : Meets 0 ts.length us.length
      (optional (mark '?') ts >>= fun rest => if beginsPath rest then path f rest else none)
      (optional (mark '?') us >>= fun rest => if beginsPath rest then path g rest else none) := by
    refine ((Agree.mark '?').optional.on hts).andThen fun _ _ hrest _ _ => ?_
    rw [hrest.beginsPath_eq]
    split
    · exact ih.path _ _ hrest (by omega) (by omega)
    · exact .fail
  cases hts with
  | nil => exact hpath
  | field =>
    rw [bound_cons, bound_cons]
    exact hpath
  | @cons t ts us rest =>
    rw [List.length_cons] at hf hg
    rw [bound_cons, bound_cons]
    cases boundHead t with
    | lifetime => exact .read rest (by simp) (by simp)
    | grouped =>
      refine Meets.succ ((ih.bound _ _ rest (by omega) (by omega)).andThen fun _ _ hrest _ _ => ?_)
      exact ((Agree.mark ')').on hrest).zero
    | path => exact hpath

protected theorem plainArgument :
    AgreeWithin (f + 1) (g + 1) 4 (plainArgument f) (plainArgument g) := by
  intro ts us hts hf hg
  have htype := ih.type ts us hts (by omega) (by omega)
  cases hts with
  | nil => exact htype
  | field => exact htype
  | @cons t ts us rest =>
    rw [plainArgument, plainArgument]
    cases argumentHead t with
    | lifetime =>
      dsimp only
      rw [(Agree.mark '+').fits_eq rest]
      split
      · exact htype
      · exact .read rest (by simp) (by simp)
    | value => exact .read rest (by simp) (by simp)
    | negative => exact (Agree.literal.on rest).zero.succ
    | block => exact ((Agree.group '\x7b' rfl).on (.cons t rest)).zero
    | type => exact htype

theorem typeArgument_succ :
    AgreeWithin (f + 1) (g + 1) 4 (typeArgument (f + 1)) (typeArgument (g + 1)) := by
  intro ts us hts hf hg
  have hequal := Agree.name.both (Agree.mark '=') (m := ts.length) (n := us.length)
  have hcolon := Agree.name.both (Agree.mark ':') (m := ts.length) (n := us.length)
  rw [typeArgument_eq, typeArgument_eq, hequal.fits_eq hts,
    hcolon.fits_eq hts,
    (Agree.name.both Agree.colons).fits_eq hts]
  split
  · refine Meets.zero ((hequal.on hts).andThen fun _ _ hrest _ _ => ?_)
    exact ih.typeArgument _ _ hrest (by omega) (by omega)
  · split
    · refine Meets.zero ((hcolon.on hts).andThen fun _ _ hrest _ _ => ?_)
      exact ih.bounds _ _ hrest (by omega) (by omega)
    · exact ih.plainArgument ts us hts hf hg

end TypesAgree

theorem types_agree (f g : Nat) : TypesAgree f g := by
  induction f generalizing g with
  | zero => constructor <;> exact fun _ _ _ h _ => absurd h (by omega)
  | succ f ih =>
    cases g with
    | zero => constructor <;> exact fun _ _ _ _ h => absurd h (by omega)
    | succ g =>
      have h := ih g
      exact { path := h.path_succ, pathArguments := h.pathArguments_succ,
              plainType := h.plainType_succ, bound := h.bound_succ, type := h.type_succ,
              bounds := h.bounds_succ, result := h.result_succ,
              typeArgument := h.typeArgument_succ }

end ApiForge.Code
