import ApiForge.Code.Grammar
import Mathlib.Data.List.Basic

/-!
Tokens that differ in the types of fields alone. A public field stands as a word, a name, a colon, a
type and a comma; two lists of tokens are spellings of each other when one is the other with some of
these types exchanged, each made of names and of brackets around one type. The lists may differ in
length, so the steps that their readers may take differ as well.

What a reader does with two such lists is a judgement of two readers (`Agree`): both fail, or both
leave lists that are spellings of each other again, shorter by some number of tokens. Every way to
put readers together keeps it. The exception is a reader that stops inside a field, in front of its
colon: there the lists left over differ, and all that is kept is that both stop there
(`AgreeToColon`), which is enough where a comma or a closing mark has to follow.
-/

namespace ApiForge.Code

/-- The word that makes a declaration public. -/
def publicWord : Token := .word ['p', 'u', 'b']

/-- A type that is a name, or a name with such a type as its only argument. -/
inductive SpellsType : List Token → Prop
  | name {w : List Char} (isName : isName w = true) : SpellsType [.word w]
  | wrapped {w : List Char} (isName : isName w = true) {ts : List Token} (inner : SpellsType ts) :
      SpellsType (.word w :: .mark '<' :: (ts ++ [.mark '>']))

/-- Whether a token can be the name of something. -/
def Token.isName : Token → Bool
  | .word w => Code.isName w
  | .raw _ => true
  | _ => false

/-- Tokens that are the same but for the types of public fields. -/
inductive Respelled : List Token → List Token → Prop
  | nil : Respelled [] []
  | cons (t : Token) {ts us : List Token} (rest : Respelled ts us) : Respelled (t :: ts) (t :: us)
  | field {id : Token} (names : id.isName = true) {x y : List Token} (left : SpellsType x)
      (right : SpellsType y) {ts us : List Token} (rest : Respelled ts us) :
      Respelled (publicWord :: id :: .mark ':' :: (x ++ .mark ',' :: ts))
        (publicWord :: id :: .mark ':' :: (y ++ .mark ',' :: us))

/-- What two readers come to on lists of lengths `m` and `n`: nothing, or lists that are shorter by
at least `k` and spellings of each other. -/
inductive Meets (k m n : Nat) : Option (List Token) → Option (List Token) → Prop
  | fail : Meets k m n none none
  | read {ts us : List Token} (rest : Respelled ts us) (left : ts.length + k ≤ m)
      (right : us.length + k ≤ n) : Meets k m n (some ts) (some us)

/-- Two readers meet on spellings of each other of at most some lengths. -/
def Agree (m n k : Nat) (r q : Reader) : Prop :=
  ∀ ts us, Respelled ts us → ts.length ≤ m → us.length ≤ n →
    Meets k ts.length us.length (r ts) (q us)

/-- Two readers agree, or both come to a colon. -/
def AgreeToColon (m n : Nat) (r q : Reader) : Prop :=
  ∀ ts us, Respelled ts us → ts.length ≤ m → us.length ≤ n →
    Meets 0 ts.length us.length (r ts) (q us) ∨
      ∃ ts' us', r ts = some (.mark ':' :: ts') ∧ q us = some (.mark ':' :: us')

variable {ts us : List Token} {k l m n : Nat} {r q r' q' : Reader} {o p : Option (List Token)}

theorem Respelled.refl : ∀ ts, Respelled ts ts
  | [] => .nil
  | t :: ts => .cons t (refl ts)

theorem Respelled.nil_iff (h : Respelled ts us) : ts = [] ↔ us = [] := by
  cases h <;> simp

theorem Respelled.symm (h : Respelled ts us) : Respelled us ts := by
  induction h with
  | nil => exact .nil
  | cons t _ ih => exact .cons t ih
  | field names left right _ ih => exact .field names right left ih

namespace Meets

theorem symm (h : Meets k m n o p) : Meets k n m p o := by
  cases h with
  | fail => exact .fail
  | read rest left right => exact .read rest.symm right left

theorem mono {k' m' n' : Nat} (h : Meets k m n o p) (hm : m + k' ≤ m' + k) (hn : n + k' ≤ n' + k) :
    Meets k' m' n' o p := by
  cases h with
  | fail => exact .fail
  | read rest left right => exact .read rest (by omega) (by omega)

theorem bind {f g : Reader} (h : Meets k m n o p)
    (hf : ∀ ts us, Respelled ts us → ts.length + k ≤ m → us.length + k ≤ n →
      Meets l ts.length us.length (f ts) (g us)) :
    Meets (k + l) m n (o.bind f) (p.bind g) := by
  cases h with
  | fail => exact .fail
  | read rest left right => exact (hf _ _ rest left right).mono (by omega) (by omega)

/-- What is read behind something leaves no more than that does. -/
theorem andThen {f g : Reader} (h : Meets k m n o p)
    (hf : ∀ ts us, Respelled ts us → ts.length + k ≤ m → us.length + k ≤ n →
      Meets 0 ts.length us.length (f ts) (g us)) :
    Meets k m n (o >>= f) (p >>= g) := h.bind hf

theorem zero (h : Meets k m n o p) : Meets 0 m n o p := h.mono (by omega) (by omega)

theorem succ (h : Meets k m n o p) : Meets k (m + 1) (n + 1) o p := h.mono (by omega) (by omega)

theorem isSome_eq (h : Meets k m n o p) : o.isSome = p.isSome := by
  cases h <;> rfl

end Meets

/-- Reads a token of some kind. -/
def token (fits : Token → Bool) : Reader
  | [] => none
  | t :: ts => if fits t then some ts else none

theorem mark_eq (c : Char) : mark c = token (· == .mark c) := by
  funext ts
  rcases ts with _ | ⟨_ | _ | _ | _ | d, ts⟩
  case cons.mark => simp [mark, token, @eq_comm _ c d]
  all_goals rfl

theorem word_eq (w : String) : word w = token (· == .word w.toList) := by
  funext ts
  rcases ts with _ | ⟨_ | _ | _ | _ | _, ts⟩ <;> simp [word, token]

theorem name_eq : name = token Token.isName := by
  funext ts
  rcases ts with _ | ⟨_ | _ | _ | _ | _, ts⟩ <;> rfl

theorem lifetime_eq : lifetime = token (· == .lifetime) := by
  funext ts
  rcases ts with _ | ⟨_ | _ | _ | _ | _, ts⟩ <;> simp [lifetime, token]

theorem literal_eq : literal = token (· == .literal) := by
  funext ts
  rcases ts with _ | ⟨_ | _ | _ | _ | _, ts⟩ <;> simp [literal, token]

theorem toList_pub : "pub".toList = ['p', 'u', 'b'] := String.toList_ofList

theorem public_ne_word {w : String} (hw : w ≠ "pub") :
    (publicWord == .word w.toList) = false := by
  refine beq_eq_false_iff_ne.mpr fun h => hw (String.toList_inj.mp ?_)
  rw [toList_pub, ← Token.word.inj h]

theorem isName_public : publicWord.isName = false := by decide

theorem token_public {fits : Token → Bool} (h : fits publicWord = false) (ts : List Token) :
    token fits (publicWord :: ts) = none := by
  rw [token, h]
  rfl

theorem name_public (ts : List Token) : name (publicWord :: ts) = none := by
  rw [name_eq, token_public isName_public]

theorem word_public {w : String} (hw : w ≠ "pub") (ts : List Token) :
    word w (publicWord :: ts) = none := by
  rw [word_eq]
  refine token_public ?_ ts
  exact public_ne_word hw

theorem marks_eq (c d : Char) : marks [c, d] = both (mark c) (mark d) := by
  funext ts
  rw [marks, both]
  cases mark c ts with
  | none => rfl
  | some ts => simp [marks]

theorem many_of_none (h : r ts = none) : many r n ts = some ts := by
  cases n with
  | zero => rfl
  | succ n => rw [many, h]

theorem many_of_some (h : r ts = some us) : many r (n + 1) ts = many r n us := by
  rw [many, h]

namespace Agree

theorem mono {m' n' : Nat} (h : Agree m n k r q) (hm : m' ≤ m) (hn : n' ≤ n) (hk : l ≤ k) :
    Agree m' n' l r q := fun ts us hts hm' hn' =>
  (h ts us hts (by omega) (by omega)).mono (by omega) (by omega)

theorem on (h : Agree ts.length us.length k r q) (hts : Respelled ts us) :
    Meets k ts.length us.length (r ts) (q us) := h ts us hts (Nat.le_refl _) (Nat.le_refl _)

theorem weaken (h : Agree m n k r q) (hk : l ≤ k) : Agree m n l r q :=
  h.mono (Nat.le_refl m) (Nat.le_refl n) hk

theorem zero (h : Agree m n k r q) : Agree m n 0 r q := h.weaken (Nat.zero_le k)

protected theorem both (h : Agree m n k r q) (h' : Agree m n l r' q') :
    Agree m n (k + l) (both r r') (both q q') := fun ts us hts hm hn =>
  (h ts us hts hm hn).bind fun _ _ hrest _ _ => h' _ _ hrest (by omega) (by omega)

protected theorem optional (h : Agree m n k r q) : Agree m n 0 (optional r) (optional q) := by
  intro ts us hts hm hn
  have hboth := h ts us hts hm hn
  rw [optional, optional]
  generalize r ts = o, q us = p at hboth ⊢
  cases hboth with
  | fail => exact .read hts (by omega) (by omega)
  | read rest left right => exact .read rest (by omega) (by omega)

protected theorem oneOf {rs qs : List Reader} (h : List.Forall₂ (Agree m n k) rs qs) :
    Agree m n k (oneOf rs) (oneOf qs) := by
  intro ts us hts hm hn
  induction h with
  | nil => exact .fail
  | @cons r q rs qs h _ ih =>
    have hfirst := h ts us hts hm hn
    rw [oneOf, oneOf]
    generalize r ts = o, q us = p at hfirst ⊢
    cases hfirst with
    | fail => exact ih
    | read rest left right => exact .read rest left right

theorem fits_eq (h : Agree ts.length us.length k r q) (hts : Respelled ts us) :
    fits r ts = fits q us := (h.on hts).isSome_eq

protected theorem token {f : Token → Bool} (hpub : f publicWord = false) :
    Agree m n 1 (token f) (token f) := by
  intro ts us hts hm hn
  cases hts with
  | nil => exact .fail
  | cons t rest =>
    rw [token, token]
    split
    · exact .read rest (by simp) (by simp)
    · exact .fail
  | field =>
    rw [token_public hpub, token_public hpub]
    exact .fail

protected theorem mark (c : Char) : Agree m n 1 (mark c) (mark c) := by
  rw [mark_eq]
  exact Agree.token rfl

protected theorem word (w : String) (hw : w ≠ "pub") : Agree m n 1 (word w) (word w) := by
  rw [word_eq]
  exact Agree.token (public_ne_word hw)

protected theorem name : Agree m n 1 name name := by
  rw [name_eq]
  exact Agree.token isName_public

protected theorem lifetime : Agree m n 1 lifetime lifetime := by
  rw [lifetime_eq]
  exact Agree.token rfl

protected theorem literal : Agree m n 1 literal literal := by
  rw [literal_eq]
  exact Agree.token rfl

protected theorem marks (c d : Char) : Agree m n 2 (marks [c, d]) (marks [c, d]) := by
  rw [marks_eq]
  exact (Agree.mark c).both (Agree.mark d)

theorem atLength {f g : Nat → Reader} (h : ∀ m n, Agree m n k (f m) (g n)) :
    Agree m n k (fun ts => f ts.length ts) (fun us => g us.length us) :=
  fun ts us hts _ _ => h _ _ ts us hts (Nat.le_refl _) (Nat.le_refl _)

/-- A loop whose turns take something comes to an end within the length of what it reads. -/
protected theorem many (h : Agree m n 1 r q) : Agree m n 0 (many r m) (many q n) := by
  intro ts us hts hm hn
  induction m generalizing n ts us with
  | zero =>
    have hturn := h ts us hts hm hn
    generalize hr : r ts = o, hq : q us = p at hturn
    cases hturn with
    | fail =>
      rw [many_of_none hr, many_of_none hq]
      exact .read hts (by omega) (by omega)
    | read => omega
  | succ m ih =>
    have hturn := h ts us hts hm hn
    generalize hr : r ts = o, hq : q us = p at hturn
    cases hturn with
    | fail =>
      rw [many_of_none hr, many_of_none hq]
      exact .read hts (by omega) (by omega)
    | read rest left right =>
      obtain ⟨n, rfl⟩ : ∃ k, n = k + 1 := ⟨n - 1, by omega⟩
      rw [many_of_some hr, many_of_some hq]
      exact (ih (h.mono (by omega) (by omega) (by omega)) _ _ rest (by omega) (by omega)).mono
        (by omega) (by omega)

theorem toColon (h : Agree m n k r q) : AgreeToColon m n r q := fun ts us hts hm hn =>
  .inl ((h ts us hts hm hn).mono (by omega) (by omega))

end Agree

theorem AgreeToColon.mono {m' n' : Nat} (h : AgreeToColon m n r q) (hm : m' ≤ m) (hn : n' ≤ n) :
    AgreeToColon m' n' r q := fun ts us hts hm' hn' => h ts us hts (by omega) (by omega)

theorem AgreeToColon.symm (h : AgreeToColon m n r q) : AgreeToColon n m q r := by
  intro ts us hts hm hn
  rcases h us ts hts.symm hn hm with hmeets | ⟨ts', us', hr, hq⟩
  · exact .inl hmeets.symm
  · exact .inr ⟨us', ts', hq, hr⟩

/-- What is read behind an item of a list. -/
def behindItem (close : Char) (more : Reader) : Reader := fun ts =>
  match mark ',' ts with
  | some rest => more rest
  | none => mark close ts

theorem listed_succ (item : Reader) (close : Char) (n : Nat) :
    listed item close (n + 1) =
      oneOf [mark close, both item (behindItem close (listed item close n))] := by
  funext ts
  rw [listed, oneOf, oneOf, oneOf]
  cases mark close ts with
  | some rest => rfl
  | none => exact (Option.none_or.trans Option.or_none).symm

protected theorem Agree.behindItem (close : Char) {more other : Reader}
    (h : Agree (m - 1) (n - 1) k more other) :
    Agree m n 1 (behindItem close more) (behindItem close other) := by
  intro ts us hts hm hn
  have hcomma := Agree.mark ',' (m := m) (n := n) ts us hts hm hn
  rw [behindItem, behindItem]
  generalize mark ',' ts = o, mark ',' us = p at hcomma ⊢
  cases hcomma with
  | fail => exact Agree.mark close ts us hts hm hn
  | read rest left right =>
    exact (h _ _ rest (by omega) (by omega)).mono (by omega) (by omega)

theorem behindItem_colon {close : Char} (hclose : close ≠ ':') (more : Reader) (ts : List Token) :
    behindItem close more (.mark ':' :: ts) = none := by
  simp [behindItem, mark, hclose]

/-- What a reader comes to where there is nothing to read: nothing, or a colon. -/
def ComesToColon (r : Reader) : Prop :=
  ∀ ts, r [] = some ts → ts = [] ∨ ∃ rest, ts = .mark ':' :: rest

theorem AgreeToColon.comesToColon (h : AgreeToColon m n r q) : ComesToColon r := by
  intro ts hts
  rcases h [] [] .nil (Nat.zero_le m) (Nat.zero_le n) with hmeets | ⟨rest, _, hrest, _⟩
  · rw [hts] at hmeets
    generalize q [] = p at hmeets
    cases hmeets with
    | read rest left right => exact .inl (List.eq_nil_of_length_eq_zero (Nat.le_zero.mp left))
  · exact .inr ⟨rest, Option.some.inj (hts.symm.trans hrest)⟩

/-- A list that is not closed is read by no reader. -/
theorem listed_nil {item : Reader} {close : Char} (hclose : close ≠ ':')
    (h : ComesToColon item) : listed item close n [] = none := by
  cases n with
  | zero => rfl
  | succ n =>
    rw [listed_succ, oneOf, oneOf, oneOf, both]
    cases hitem : item [] with
    | none => rfl
    | some ts =>
      rcases h ts hitem with rfl | ⟨more, rfl⟩
      · rfl
      · rw [Option.bind_eq_bind, Option.bind_some, behindItem_colon hclose]
        rfl

theorem AgreeToColon.both_behindItem {item other more more' : Reader} {close : Char}
    (hclose : close ≠ ':') (h : AgreeToColon m n item other)
    (hmore : Agree (m - 1) (n - 1) k more more') :
    Agree m n 1 (both item (behindItem close more)) (both other (behindItem close more')) := by
  intro ts us hts hm hn
  rcases h ts us hts hm hn with hitem | ⟨ts', us', hleft, hright⟩
  · have hrest := hitem.bind (l := 1) fun rest rest' hrest _ _ =>
      Agree.behindItem close hmore rest rest' hrest (by omega) (by omega)
    exact hrest.mono (by omega) (by omega)
  · rw [both, both, hleft, hright]
    simp only [Option.bind_eq_bind, Option.bind_some, behindItem_colon hclose]
    exact .fail

protected theorem AgreeToColon.listed {item other : Reader} {close : Char} (hclose : close ≠ ':')
    (h : AgreeToColon m n item other) :
    Agree m n 1 (listed item close m) (listed other close n) := by
  intro ts us hts hm hn
  induction m generalizing n ts us with
  | zero =>
    obtain rfl := List.eq_nil_of_length_eq_zero (Nat.le_zero.mp hm)
    obtain rfl := hts.nil_iff.mp rfl
    rw [listed_nil hclose h.comesToColon, listed_nil hclose h.symm.comesToColon]
    exact .fail
  | succ m ih =>
    cases n with
    | zero =>
      obtain rfl := List.eq_nil_of_length_eq_zero (Nat.le_zero.mp hn)
      obtain rfl := hts.nil_iff.mpr rfl
      rw [listed_nil hclose h.comesToColon, listed_nil hclose h.symm.comesToColon]
      exact .fail
    | succ n =>
      have hmore : Agree m n 1 (listed item close m) (listed other close n) :=
        fun ts us => ih (h.mono (by omega) (by omega)) ts us
      rw [listed_succ, listed_succ]
      have hrest := h.both_behindItem hclose hmore
      exact Agree.oneOf (.cons (Agree.mark close) (.cons hrest .nil)) ts us hts hm hn

/-! Brackets. -/

/-- Whether a token neither opens nor closes a bracket nor ends a value. -/
def Token.runsOn : Token → Bool
  | .mark c => (closing? c).isNone && !isClosing c && c != ';'
  | _ => true

theorem SpellsType.runsOn {ts : List Token} (h : SpellsType ts) : ∀ t ∈ ts, t.runsOn = true := by
  induction h with
  | name => exact List.forall_mem_singleton.mpr rfl
  | wrapped _ _ ih =>
    have hends := List.forall_mem_append.mpr
      ⟨ih, List.forall_mem_singleton.mpr (show (Token.mark '>').runsOn = true from rfl)⟩
    exact List.forall_mem_cons.mpr ⟨rfl, List.forall_mem_cons.mpr ⟨rfl, hends⟩⟩

theorem runsOn_of_isName {t : Token} (h : t.isName = true) : t.runsOn = true := by
  cases t with
  | mark => cases h
  | _ => rfl

/-- A field up to the comma behind it. -/
def fieldTokens (id : Token) (x : List Token) : List Token :=
  publicWord :: id :: .mark ':' :: (x ++ [.mark ','])

theorem fieldTokens_append (id : Token) (x ts : List Token) :
    fieldTokens id x ++ ts = publicWord :: id :: .mark ':' :: (x ++ .mark ',' :: ts) := by
  simp [fieldTokens]

theorem length_fieldTokens (id : Token) (x : List Token) :
    (fieldTokens id x).length = x.length + 4 := by
  simp [fieldTokens]

theorem runsOn_fieldTokens {id : Token} (names : id.isName = true) {x : List Token}
    (hx : SpellsType x) : ∀ t ∈ fieldTokens id x, t.runsOn = true := by
  have hends := List.forall_mem_append.mpr
    ⟨hx.runsOn, List.forall_mem_singleton.mpr (show (Token.mark ',').runsOn = true from rfl)⟩
  exact List.forall_mem_cons.mpr ⟨rfl, List.forall_mem_cons.mpr ⟨runsOn_of_isName names,
    List.forall_mem_cons.mpr ⟨rfl, hends⟩⟩⟩

theorem closed_mark (brackets : List Char) (c : Char) (ts : List Token) :
    closed brackets (.mark c :: ts) =
      match closing? c with
      | some d => closed (d :: brackets) ts
      | none =>
        if isClosing c then
          match brackets with
          | [] => none
          | [d] => if c = d then some ts else none
          | d :: more => if c = d then closed more ts else none
        else closed brackets ts := rfl

theorem closed_cons {t : Token} (ht : t.runsOn = true) (brackets : List Char) (ts : List Token) :
    closed brackets (t :: ts) = closed brackets ts := by
  cases t with
  | mark c =>
    simp only [Token.runsOn, Bool.and_eq_true, Option.isNone_iff_eq_none, Bool.not_eq_true'] at ht
    simp only [closed, ht.1.1, ht.1.2]
    rfl
  | _ => rfl

theorem closed_append {l : List Token} (hl : ∀ t ∈ l, t.runsOn = true) (brackets : List Char)
    (ts : List Token) : closed brackets (l ++ ts) = closed brackets ts := by
  induction l with
  | nil => rfl
  | cons t l ih =>
    rw [List.forall_mem_cons] at hl
    rw [List.cons_append, closed_cons hl.1, ih hl.2]

protected theorem Respelled.closed (brackets : List Char) (h : Respelled ts us) :
    Meets 1 ts.length us.length (closed brackets ts) (closed brackets us) := by
  induction h generalizing brackets with
  | nil => exact .fail
  | @cons t ts us rest ih =>
    have hmore : ∀ bs, Meets 1 (t :: ts).length (t :: us).length (closed bs ts)
        (closed bs us) := fun bs => (ih bs).mono (by simp) (by simp)
    cases t with
    | mark c =>
      rw [closed_mark, closed_mark]
      cases closing? c with
      | some d => exact hmore _
      | none =>
        dsimp only
        split
        · rcases brackets with _ | ⟨d, _ | ⟨e, more⟩⟩
          · exact .fail
          · dsimp only
            split
            · exact .read rest (by simp) (by simp)
            · exact .fail
          · dsimp only
            split
            · exact hmore _
            · exact .fail
        · exact hmore _
    | _ => exact hmore _
  | @field id names x y left right ts us rest ih =>
    rw [← fieldTokens_append, ← fieldTokens_append, closed_append (runsOn_fieldTokens names left),
      closed_append (runsOn_fieldTokens names right)]
    exact (ih brackets).mono (by simp) (by simp)

theorem group_eq {bracket close : Char} (h : closing? bracket = some close) :
    group bracket = both (mark bracket) (closed [close]) := by
  funext ts
  rw [group, h]
  rfl

theorem anyGroup_cons {c : Char} (hc : closing? c = none) (ts : List Token) :
    anyGroup (.mark c :: ts) = none := by
  have hother : ∀ bracket, (closing? bracket).isSome = true →
      group bracket (.mark c :: ts) = none := by
    intro bracket hbracket
    have hne : bracket ≠ c := by
      rintro rfl
      rw [hc] at hbracket
      cases hbracket
    obtain ⟨close, hclose⟩ := Option.isSome_iff_exists.mp hbracket
    rw [group_eq hclose, both, mark, if_neg hne]
    rfl
  rw [anyGroup, oneOf, oneOf, oneOf, hother _ rfl, hother _ rfl, hother _ rfl]
  rfl

theorem value_nil (n : Nat) : value n [] = none := by
  cases n <;> rfl

theorem value_succ (n : Nat) (ts : List Token) :
    value (n + 1) ts =
      match mark ';' ts with
      | some rest => some rest
      | none =>
        match anyGroup ts with
        | some rest => value n rest
        | none =>
          match ts with
          | .mark c :: rest => if isClosing c then none else value n rest
          | _ :: rest => value n rest
          | [] => none := rfl

theorem value_cons {t : Token} (ht : t.runsOn = true) (n : Nat) (ts : List Token) :
    value (n + 1) (t :: ts) = value n ts := by
  cases t with
  | mark c =>
    simp only [Token.runsOn, Bool.and_eq_true, Option.isNone_iff_eq_none, Bool.not_eq_true',
      bne_iff_ne] at ht
    obtain ⟨⟨hopens, hcloses⟩, hends⟩ := ht
    rw [value, mark, if_neg hends.symm, anyGroup_cons hopens, hcloses]
    rfl
  | _ => rfl

theorem value_append {l : List Token} (hl : ∀ t ∈ l, t.runsOn = true) (n : Nat)
    (ts : List Token) : value (n + l.length) (l ++ ts) = value n ts := by
  induction l with
  | nil => rfl
  | cons t l ih =>
    rw [List.forall_mem_cons] at hl
    rw [List.length_cons, ← Nat.add_assoc, List.cons_append, value_cons hl.1, ih hl.2]

namespace Agree

protected theorem closed (brackets : List Char) : Agree m n 1 (closed brackets) (closed brackets) :=
  fun _ _ hts _ _ => hts.closed brackets

protected theorem group (bracket : Char) {close : Char} (h : closing? bracket = some close) :
    Agree m n 2 (group bracket) (group bracket) := by
  rw [group_eq h]
  exact (Agree.mark bracket).both (Agree.closed [close])

protected theorem anyGroup : Agree m n 2 anyGroup anyGroup :=
  Agree.oneOf (.cons (Agree.group '(' rfl) (.cons (Agree.group '[' rfl)
    (.cons (Agree.group '\x7b' rfl) .nil)))

protected theorem value : Agree m n 1 (value m) (value n) := by
  intro ts us hts hm hn
  induction m using Nat.strongRecOn generalizing n ts us with
  | ind m ih =>
  cases hts with
  | nil =>
    rw [value_nil, value_nil]
    exact .fail
  | @field id names x y left right ts us rest =>
    have hx := length_fieldTokens id x
    have hy := length_fieldTokens id y
    rw [← fieldTokens_append, List.length_append] at hm hn
    rw [← fieldTokens_append, ← fieldTokens_append]
    obtain ⟨m, rfl⟩ : ∃ k, m = k + (fieldTokens id x).length :=
      ⟨m - (fieldTokens id x).length, by omega⟩
    obtain ⟨n, rfl⟩ : ∃ k, n = k + (fieldTokens id y).length :=
      ⟨n - (fieldTokens id y).length, by omega⟩
    rw [value_append (runsOn_fieldTokens names left),
      value_append (runsOn_fieldTokens names right), List.length_append, List.length_append]
    exact (ih m (by omega) ts us rest (by omega) (by omega)).mono (by omega) (by omega)
  | @cons t ts us rest =>
    rw [List.length_cons] at hm hn
    obtain ⟨m, rfl⟩ : ∃ k, m = k + 1 := ⟨m - 1, by omega⟩
    obtain ⟨n, rfl⟩ : ∃ k, n = k + 1 := ⟨n - 1, by omega⟩
    have hmore : ∀ {ts' us'}, Respelled ts' us' → ts'.length ≤ ts.length →
        us'.length ≤ us.length →
        Meets 1 (t :: ts).length (t :: us).length (value m ts') (value n us') := by
      intro ts' us' hrest hleft hright
      rw [List.length_cons, List.length_cons]
      exact (ih m (by omega) (n := n) _ _ hrest (by omega) (by omega)).mono (by omega) (by omega)
    have hsemicolon := Agree.mark (m := m + 1) (n := n + 1) ';' _ _ (.cons t rest) hm hn
    have hgroup := Agree.anyGroup (m := m + 1) (n := n + 1) _ _ (.cons t rest) hm hn
    rw [value_succ, value_succ]
    generalize mark ';' (t :: ts) = o, mark ';' (t :: us) = p at hsemicolon ⊢
    generalize anyGroup (t :: ts) = o', anyGroup (t :: us) = p' at hgroup ⊢
    cases hsemicolon with
    | read rest left right => exact .read rest left right
    | fail =>
      cases hgroup with
      | read rest left right =>
        simp only [List.length_cons] at left right
        exact hmore rest (by omega) (by omega)
      | fail =>
        cases t with
        | mark c =>
          dsimp only
          split
          · exact .fail
          · exact hmore rest (by omega) (by omega)
        | _ => exact hmore rest (by omega) (by omega)

protected theorem attributes : Agree m n 0 attributes attributes :=
  atLength fun _ _ => Agree.many (((Agree.mark '#').both (Agree.group '[' rfl)).weaken (by decide))

protected theorem colons : Agree m n 2 colons colons := Agree.marks ':' ':'

protected theorem segmentName : Agree m n 1 segmentName segmentName :=
  Agree.oneOf (.cons Agree.name (.cons (Agree.word _ (by decide)) (.cons (Agree.word _ (by decide))
    (.cons (Agree.word _ (by decide)) (.cons (Agree.word _ (by decide)) .nil)))))

protected theorem macroCall : Agree m n 1 macroCall macroCall :=
  ((Agree.mark '!').both Agree.anyGroup).weaken (by decide)

end Agree

theorem Respelled.beginsPath_eq (h : Respelled ts us) : beginsPath ts = beginsPath us := by
  rw [beginsPath, beginsPath, Agree.segmentName.fits_eq h, Agree.colons.fits_eq h]

theorem beginsPath_public (ts : List Token) : beginsPath (publicWord :: ts) = false := by
  have hname : segmentName (publicWord :: ts) = none := by
    simp only [segmentName, oneOf, name_public, word_public (w := "self") (by decide),
      word_public (w := "super") (by decide), word_public (w := "crate") (by decide),
      word_public (w := "Self") (by decide)]
    rfl
  rw [beginsPath, fits, hname]
  rfl

end ApiForge.Code
