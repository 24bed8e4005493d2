import ApiForge.Proofs.FieldTokens
import ApiForge.Emit.Unit

/-!
The line of a field. How a field is held is written in one line of its type's unit, between texts
that do not depend on it. The text before the line either has tokens of its own, and then the two
units have tokens that differ in the spelling of one type, or it leaves a comment or a literal open
that goes over the line, and then nothing of the line is read. Main statement: a unit is well-formed
whether or not a field that names a type by an identifier is held through a pointer
(`Emit.isUnit_recordUnit_boxed`, `Emit.isUnit_variantUnit_boxed`).
-/

namespace ApiForge

open Code

namespace Name

/-- The characters of an identifier in snake case mean nothing in a comment or a literal. -/
theorem isInner_of_mem_snakeIdent {name : String} {c : Char} (h : c ∈ (snakeIdent name).toList) :
    isInner c = true := by
  rw [snakeIdent_eq] at h
  split at h
  · have hall : "value".toList.all isInner = true := by decide
    exact List.all_eq_true.mp hall c h
  · next hsome =>
    have hescape : ∀ s : String, (∀ d ∈ s.toList, isInner d = true) →
        ∀ d ∈ (escapeKeyword s).toList, isInner d = true := by
      intro s hs d hd
      rw [escapeKeyword] at hd
      split at hd
      · rw [String.toList_append, List.mem_append] at hd
        rcases hd with hd | hd
        · exact hs d hd
        · rw [List.mem_singleton.mp hd]
          rfl
      · split at hd
        · have hmark : rawMark.toList.all isInner = true := by decide
          rw [String.toList_append, List.mem_append] at hd
          exact hd.elim (List.all_eq_true.mp hmark d) (hs d)
        · exact hs d hd
    refine hescape _ (fun d hd => ?_) c h
    rw [String.toList_ofList] at hd
    exact isInner_of_isStemChar ((guardDigit_snakeCase hsome).2.2.2 d hd).1

end Name

namespace Code

variable {x y : List Char} {xs ys : List Token}

theorem isInner_of_continues {c : Char} (h : Text.continuesIdentifier c = true) :
    isInner c = true := by
  rw [isInner, decide_eq_true_eq]
  exact notMem_of_all (by decide) h

theorem continues_of_isName {w : List Char} (hw : isName w = true) :
    ∀ c ∈ w, Text.continuesIdentifier c = true := by
  have hword := isWord_of_isName hw
  cases w with
  | nil => exact nofun
  | cons c w =>
    rw [isWord, Bool.and_eq_true, List.all_eq_true] at hword
    exact List.forall_mem_cons.mpr ⟨continuesIdentifier_of_startsWord hword.1, hword.2⟩

theorem TypeText.isInner (h : TypeText x xs) : ∀ c ∈ x, isInner c = true := by
  have hname : ∀ {w}, isName w = true → ∀ c ∈ w, Code.isInner c = true :=
    fun hw c hc => isInner_of_continues (continues_of_isName hw c hc)
  induction h with
  | name hw => exact hname hw
  | wrapped hw _ ih =>
    refine List.forall_mem_append.mpr ⟨hname hw, List.forall_mem_cons.mpr ⟨rfl, ?_⟩⟩
    exact List.forall_mem_append.mpr ⟨ih, List.forall_mem_singleton.mpr rfl⟩

/-- The line of a field. -/
def fieldText (id x : List Char) : List Char :=
  ' ' :: ' ' :: ' ' :: ' ' :: 'p' :: 'u' :: 'b' :: ' ' :: (id ++ ':' :: ' ' :: (x ++ [',', '\n']))

theorem tokens_blank {c : Char} (hc : isCodeBlank c = true) (rest : List Char) :
    tokens (c :: rest) = tokens rest := by
  have hlexeme : lexeme c rest = some ([], 0) := by
    rw [lexeme.eq_def, if_pos hc]
  rw [tokens_cons hlexeme]
  simp

theorem tokens_space (rest : List Char) : tokens (' ' :: rest) = tokens rest :=
  tokens_blank (by decide) rest

theorem tokens_newline (rest : List Char) : tokens ('\n' :: rest) = tokens rest :=
  tokens_blank (by decide) rest

theorem tokens_field {id : List Char} (rest : List Char) :
    tokens (fieldText id x ++ rest) =
      (tokens (id ++ ':' :: ' ' :: (x ++ ',' :: '\n' :: rest))).map (publicWord :: ·) := by
  have hword : isWord ['p', 'u', 'b'] = true := by decide
  have hblank : Text.continuesIdentifier ' ' = false := by decide
  have hbehind : standsBehindWord ' ' = true := by decide
  have hpub := tokens_word hword hblank hbehind
  have hend : x ++ [',', '\n'] ++ rest = x ++ ',' :: '\n' :: rest := by
    rw [List.append_assoc]
    rfl
  rw [fieldText]
  simp only [List.cons_append, List.append_assoc, List.nil_append] at hpub ⊢
  rw [tokens_space, tokens_space, tokens_space, tokens_space, hpub, tokens_space]
  rfl

theorem tokens_fieldText {id : List Char} (hx : TypeText x xs) {t : Token}
    (h : ∀ rest, tokens (id ++ ':' :: rest) = (tokens (':' :: rest)).map (t :: ·))
    (rest : List Char) :
    tokens (fieldText id x ++ rest) =
      (tokens rest).map fun ts => publicWord :: t :: .mark ':' :: (xs ++ .mark ',' :: ts) := by
  rw [tokens_field, h, tokens_mark (by decide), tokens_space, tokens_typeText hx (by decide),
    tokens_mark (by decide), tokens_newline]
  cases tokens rest <;> rfl

theorem Respelled.append_left (ts : List Token) {us vs : List Token} (h : Respelled us vs) :
    Respelled (ts ++ us) (ts ++ vs) := by
  induction ts with
  | nil => exact h
  | cons t ts ih => exact .cons t ih

theorem isUnit_eq (code : String) : isUnit code = (tokens code.toList).any readsUnit := by
  rw [isUnit]
  cases tokens code.toList <;> rfl

/-- What goes over a text leads to the same place behind it. -/
theorem PassesOver.bind_append {skip : List Char → Option Nat} (h : PassesOver skip)
    {l : List Char} (hl : ∀ c ∈ l, isInner c = true) (after : List Char)
    (f : List Char → Option (List Token)) :
    ((skip (l ++ after)).bind fun n => f ((l ++ after).drop n)) =
      (skip after).bind fun n => f (after.drop n) := by
  rw [h l after hl]
  cases skip after with
  | none => rfl
  | some n => simp only [Option.map_some, Option.bind_some, List.drop_length_add_append]

theorem isInner_of_mem_fieldText (name : String) (hx : TypeText x xs) :
    ∀ c ∈ fieldText (Name.snakeIdent name).toList x, isInner c = true := by
  have hmarks : ∀ c ∈ [' ', 'p', 'u', 'b', ':', ',', '\n'], isInner c = true :=
    List.all_eq_true.mp (by decide)
  simp only [fieldText, List.forall_mem_append, List.forall_mem_cons] at hmarks ⊢
  obtain ⟨hspace, hp, hu, hb, hcolon, hcomma, hbreak, -⟩ := hmarks
  have hident : ∀ c ∈ (Name.snakeIdent name).toList, isInner c = true := fun _ hc =>
    Name.isInner_of_mem_snakeIdent hc
  exact ⟨hspace, hspace, hspace, hspace, hp, hu, hb, hspace, hident, hcolon, hspace, hx.isInner,
    hcomma, hbreak, nofun⟩

/-- Code that differs in how the type of one field is spelled is a unit in both spellings or in
none. -/
theorem readsUnit_fieldText (name : String) (hx : TypeText x xs) (hy : TypeText y ys)
    (before after : List Char) :
    (tokens (before ++ '\n' ::
        (fieldText (Name.snakeIdent name).toList x ++ after))).any readsUnit =
      (tokens (before ++ '\n' ::
        (fieldText (Name.snakeIdent name).toList y ++ after))).any readsUnit := by
  rcases tokens_lines before with ⟨found, hfound⟩ | ⟨found, skip, hskip, hfound⟩
  · rw [hfound, hfound]
    rcases Name.tokens_snakeIdent name with ⟨t, ht, hident⟩ | hnone
    · rw [tokens_fieldText hx hident, tokens_fieldText hy hident]
      cases tokens after with
      | none => rfl
      | some rest =>
        have hfield := Respelled.field ht hx.spellsType hy.spellsType (.refl rest)
        exact readsUnit_eq (hfield.append_left found)
    · rw [tokens_field, tokens_field, hnone, hnone]
  · have hbehind := fun (z : List Char) (hz : ∀ c ∈ fieldText (Name.snakeIdent name).toList z,
      isInner c = true) => hskip.bind_append hz after fun l => (tokens l).map (found ++ ·)
    rw [hfound, hfound, hbehind x (isInner_of_mem_fieldText name hx),
      hbehind y (isInner_of_mem_fieldText name hy)]

end Code

/-! Units with a field. -/

namespace Field

/-- A field that names a type by an identifier is spelled with names. -/
theorem exists_typeText (f : ModelField) {target : String} (htype : f.type = .reference target)
    (htarget : isName target.toList = true) : ∃ ts, TypeText f.expression.toList ts := by
  have hwrapped : ∀ {w s : String}, isName w.toList = true → (∃ ts, TypeText s.toList ts) →
      ∃ ts, TypeText (w ++ "<" ++ s ++ ">").toList ts := by
    rintro w s hw ⟨ts, hs⟩
    have htext : (w ++ "<" ++ s ++ ">").toList = w.toList ++ '<' :: (s.toList ++ ['>']) := by
      simp [String.toList_append]
    rw [htext]
    exact ⟨_, .wrapped hw hs⟩
  have hname : ∃ ts, TypeText f.type.expression.toList ts := by
    rw [htype]
    exact ⟨_, .name htarget⟩
  have hheld : ∃ ts, TypeText
      (if f.boxed then "Box<" ++ f.type.expression ++ ">" else f.type.expression).toList ts := by
    split
    · exact hwrapped (w := "Box") (by decide) hname
    · exact hname
  rw [expression]
  split
  · exact hwrapped (w := "Option") (by decide) hheld
  · exact hheld

end Field

namespace Emit

/-- A piece among others stands between the same texts whatever it is. -/
theorem exists_joined (separator : String) (before after : List String) :
    ∃ front back, ∀ piece,
      joined separator (before ++ piece :: after) = front ++ piece ++ back := by
  induction before with
  | nil =>
    cases after with
    | nil => exact ⟨"", "", fun piece => by simp [joined]⟩
    | cons next after =>
      refine ⟨"", separator ++ joined separator (next :: after), fun piece => ?_⟩
      rw [List.nil_append, joined_cons_cons, String.empty_append, String.append_assoc]
  | cons first before ih =>
    obtain ⟨front, back, h⟩ := ih
    refine ⟨first ++ separator ++ front, back, fun piece => ?_⟩
    have hcons : ∃ next rest, before ++ piece :: after = next :: rest := by
      cases before <;> exact ⟨_, _, rfl⟩
    obtain ⟨next, rest, heq⟩ := hcons
    rw [List.cons_append, heq, joined_cons_cons, ← heq, h]
    simp only [String.append_assoc]

/-- A field's block ends with its line; the lines before it say nothing of how it is held. -/
theorem exists_fieldBlock (f : ModelField) :
    ∃ front : List Char, ∀ boxed, (fieldBlock { f with boxed }).toList =
      front ++ '\n' :: fieldText f.ident.toList { f with boxed }.expression.toList := by
  have hattributes : ")]\n".toList = [')', ']', '\n'] := String.toList_ofList
  have hpub : "    pub ".toList = [' ', ' ', ' ', ' ', 'p', 'u', 'b', ' '] := String.toList_ofList
  have hcolon : ": ".toList = [':', ' '] := String.toList_ofList
  have hcomma : ",\n".toList = [',', '\n'] := String.toList_ofList
  refine ⟨(docComment f.description "    " ++ defaultNotes f ++
    (if f.deprecated then "    #[deprecated]\n" else "") ++ "    #[serde(" ++
    joined ", " (fieldAttributes f)).toList ++ [')', ']'], fun boxed => ?_⟩
  rw [fieldBlock]
  simp only [String.toList_append, hattributes, hpub, hcolon, hcomma, fieldText, List.append_assoc,
    List.cons_append, List.nil_append]
  rfl

/-- A struct with a field is written as its line with texts before and behind it that say nothing
of how the field is held. -/
theorem exists_structBody (name : String) (before : List ModelField) (f : ModelField)
    (after : List ModelField) :
    ∃ front back : List Char, ∀ boxed,
      (structBody name (before ++ { f with boxed } :: after)).toList =
        front ++ '\n' :: (fieldText f.ident.toList { f with boxed }.expression.toList ++ back) := by
  obtain ⟨opening, closing, hbody⟩ : ∃ opening closing : String, ∀ fields,
      structBody name fields = opening ++ joined "\n" (fields.map fieldBlock) ++ closing :=
    ⟨_, _, fun _ => rfl⟩
  obtain ⟨front, back, hjoined⟩ :=
    exists_joined "\n" (before.map fieldBlock) (after.map fieldBlock)
  obtain ⟨block, hblock⟩ := exists_fieldBlock f
  refine ⟨(opening ++ front).toList ++ block, (back ++ closing).toList, fun boxed => ?_⟩
  rw [hbody, List.map_append, List.map_cons, hjoined]
  simp only [String.toList_append, hblock, List.append_assoc, List.cons_append]

/-- The units that a field stands in, with texts around the line of the field. -/
theorem exists_recordUnit (r : Record) (notes : Option String) (before : List ModelField)
    (f : ModelField) (after : List ModelField) :
    ∃ front back : List Char, ∀ boxed,
      (recordUnit { r with fields := before ++ { f with boxed } :: after } notes).toList =
        front ++ '\n' :: (fieldText f.ident.toList { f with boxed }.expression.toList ++ back) := by
  obtain ⟨front, back, h⟩ := exists_structBody r.name before f after
  refine ⟨(prelude r.namespaceName recordImports ++ notes.getD "" ++ docComment r.description "" ++
    (if r.deprecated then "#[deprecated]\n" else "")).toList ++ front, back, fun boxed => ?_⟩
  rw [recordUnit]
  simp only [String.toList_append, h, List.append_assoc]

theorem exists_variantUnit (v : Variant) (before : List ModelField) (f : ModelField)
    (after : List ModelField) :
    ∃ front back : List Char, ∀ boxed,
      (variantUnit { v with fields := before ++ { f with boxed } :: after }).toList =
        front ++ '\n' :: (fieldText f.ident.toList { f with boxed }.expression.toList ++ back) := by
  obtain ⟨front, back, h⟩ := exists_structBody v.name before f after
  refine ⟨(prelude v.namespaceName recordImports ++ docComment v.description "" ++
    (if v.description.isSome then "///\n" else "") ++ "/// Variant of [\x60" ++ v.baseName ++
    "\x60].\n" ++ anyCase).toList ++ front, back, fun boxed => ?_⟩
  rw [variantUnit]
  simp only [String.toList_append, h, List.append_assoc]

/-- Texts that differ in the line of one field, which names a type by an identifier. -/
theorem isUnit_eq_of_fieldText {f : ModelField} {target : String}
    (htype : f.type = .reference target) (htarget : isName target.toList = true)
    {text : Bool → String} {front back : List Char} (h : ∀ boxed, (text boxed).toList =
      front ++ '\n' :: (fieldText f.ident.toList { f with boxed }.expression.toList ++ back))
    (boxed other : Bool) : isUnit (text boxed) = isUnit (text other) := by
  obtain ⟨_, hx⟩ := Field.exists_typeText { f with boxed } htype htarget
  obtain ⟨_, hy⟩ := Field.exists_typeText { f with boxed := other } htype htarget
  rw [isUnit_eq, isUnit_eq, h, h]
  exact readsUnit_fieldText f.name hx hy front back

theorem isUnit_recordUnit_boxed (r : Record) (notes : Option String) (before : List ModelField)
    (f : ModelField) (after : List ModelField) {target : String}
    (htype : f.type = .reference target) (htarget : isName target.toList = true) :
    isUnit (recordUnit { r with fields := before ++ { f with boxed := true } :: after } notes) =
      isUnit (recordUnit { r with fields := before ++ f :: after } notes) := by
  obtain ⟨front, back, h⟩ := exists_recordUnit r notes before f after
  exact isUnit_eq_of_fieldText htype htarget h true f.boxed

theorem isUnit_variantUnit_boxed (v : Variant) (before : List ModelField) (f : ModelField)
    (after : List ModelField) {target : String} (htype : f.type = .reference target)
    (htarget : isName target.toList = true) :
    isUnit (variantUnit { v with fields := before ++ { f with boxed := true } :: after }) =
      isUnit (variantUnit { v with fields := before ++ f :: after }) := by
  obtain ⟨front, back, h⟩ := exists_variantUnit v before f after
  exact isUnit_eq_of_fieldText htype htarget h true f.boxed

end Emit

end ApiForge
