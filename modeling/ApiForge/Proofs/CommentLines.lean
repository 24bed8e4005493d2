import ApiForge.Emit.Comment
import ApiForge.Proofs.FileStem
import ApiForge.Proofs.Pieces
import ApiForge.Proofs.PrintedValue

/-!
The lines of comments. What a document says is put into line comments, where a line feed ends the
comment: a description has its line feeds exchanged, the text of a value has none, and the lines of
a doc comment are cut first, but names, kinds, formats and targets stand as they are. Main
statement: the notes of a schema are nothing but line comments exactly when none of these texts
leaves its comment, and a doc comment is one at its indent (`comments_stay_iff`).
-/

namespace ApiForge.Emit

/-- Every line of a text begins with a mark. -/
def AllBegin (mark : String) (s : String) : Prop := ∀ line ∈ textLines s, mark.toList <+: line

/-- A text does not leave the line comment it stands in: what follows a line feed in it is a line
comment again. -/
def Stays (text : String) : Prop :=
  ∀ line ∈ (Text.pieces (· == '\n') text.toList).tail, "//".toList <+: line

instance (text : String) : Decidable (Stays text) :=
  inferInstanceAs
    (Decidable (∀ line ∈ (Text.pieces (· == '\n') text.toList).tail, "//".toList <+: line))

/-- The texts of the shape of a schema that stand in the notes as they are. -/
def shapeTexts (schema : Schema) : List String :=
  match schema.shape with
  | .array (some items) => [items.kindLabel]
  | .reference target => [target]
  | .object properties required =>
    required ++ properties.flatMap fun (name, s) => [name, s.kindLabel]
  | _ => []

/-- The texts of a schema and its key that stand in the notes as they are. -/
def rawTexts (key : String) (schema : Schema) : List String :=
  [key, schema.kindLabel, formatOf schema] ++ shapeTexts schema

/-! Texts without line feeds. -/

theorem stays_of_notMem {text : String} (h : '\n' ∉ text.toList) : Stays text := by
  rw [Stays, pieces_of_notMem h]
  nofun

theorem newline_notMem_onOneLine (s : String) : '\n' ∉ (onOneLine s).toList := by
  rw [onOneLine, String.toList_ofList, List.mem_map]
  rintro ⟨c, -, hc⟩
  split at hc
  · exact absurd hc (by decide)
  · next hne => exact hne hc

theorem newline_notMem_truth (b : Bool) : '\n' ∉ (truth b).toList := by
  cases b <;> decide

theorem newline_notMem_numeric {c : Char} (h : Double.IsNumeric c) : c ≠ '\n' := by
  rintro rfl
  rcases h with h | h
  · cases h
  · exact absurd h (by decide)

theorem newline_notMem_escapeChar (c : Char) : '\n' ∉ Json.escapeChar c := by
  have hdigits : ∀ n < 16, Nat.digitChar n ≠ '\n' := by decide
  have hhex : ∀ n, Json.hexDigit n ≠ '\n' := fun n => hdigits _ (Nat.mod_lt n (by decide))
  rw [Json.escapeChar]
  by_cases hfeed : c = '\n'
  · subst hfeed
    decide
  · split_ifs <;> simp [Ne.symm (hhex _), Ne.symm hfeed]

theorem newline_notMem_quote (s : String) : '\n' ∉ Json.quote s := by
  rw [Json.quote]
  simp only [List.cons_append, List.mem_cons, List.mem_append, List.mem_flatMap, List.not_mem_nil,
    or_false, not_or, not_exists, not_and]
  exact ⟨by decide, fun c _ => newline_notMem_escapeChar c, by decide⟩

theorem newline_notMem_joined {parts : List (List Char)} (h : ∀ part ∈ parts, '\n' ∉ part) :
    '\n' ∉ Json.joined parts := by
  intro hmem
  rcases Text.mem_intercalate hmem with hcomma | ⟨part, hpart, hmem⟩
  · exact absurd hcomma (by decide)
  · exact h part hpart hmem

theorem newline_notMem_chars (v : Json) : '\n' ∉ v.chars := by
  induction v using Json.json_induction with
  | null => decide
  | bool b => cases b <;> decide
  | int n =>
    rw [Json.chars, Json.toList_toString_int]
    have hdigits : '\n' ∉ Nat.toDigits 10 n.natAbs := fun hmem =>
      newline_notMem_numeric (Double.isNumeric_of_mem_toDigits hmem) rfl
    split
    · rw [List.mem_cons, not_or]
      exact ⟨by decide, hdigits⟩
    · exact hdigits
  | real d => exact fun hmem => newline_notMem_numeric (Double.isNumeric_of_mem_render hmem) rfl
  | str s => exact newline_notMem_quote s
  | arr items ih =>
    rw [Json.chars, Json.itemChars_eq]
    simp only [List.cons_append, List.mem_cons, List.mem_append, List.not_mem_nil, or_false, not_or]
    refine ⟨by decide, newline_notMem_joined ?_, by decide⟩
    exact List.forall_mem_map.mpr ih
  | obj members ih =>
    rw [Json.chars, Json.memberChars_eq]
    simp only [List.cons_append, List.mem_cons, List.mem_append, List.not_mem_nil, or_false, not_or]
    refine ⟨by decide, newline_notMem_joined (List.forall_mem_map.mpr fun m hm => ?_), by decide⟩
    rw [Json.memberText, List.mem_append, List.mem_cons, not_or, not_or]
    exact ⟨newline_notMem_quote m.1, by decide, ih m hm⟩

theorem newline_notMem_render (v : Json) : '\n' ∉ v.render.toList := by
  rw [Json.render, String.toList_ofList]
  exact newline_notMem_chars v

/-! Lines. -/

theorem allBegin_lines_iff (mark : String) (ls : List String) :
    AllBegin mark (lines ls) ↔
      ∀ l ∈ ls, ∀ piece ∈ Text.pieces (· == '\n') l.toList, mark.toList <+: piece := by
  rw [AllBegin, textLines_lines]
  simp only [List.mem_flatMap]
  exact ⟨fun h l hl piece hpiece => h piece ⟨l, hl, hpiece⟩,
    fun h piece ⟨l, hl, hpiece⟩ => h l hl piece hpiece⟩

/-- What is written as one line is nothing but line comments. -/
def IsComment (l : String) : Prop :=
  ∀ piece ∈ Text.pieces (· == '\n') l.toList, "//".toList <+: piece

/-- The beginning of a comment line: the mark of comments, and no line feed. -/
def OpensComment (head : String) : Prop := "//".toList <+: head.toList ∧ '\n' ∉ head.toList

instance : DecidablePred OpensComment := fun _ => inferInstanceAs (Decidable (_ ∧ _))

theorem isComment_of_opens {l : String} (h : OpensComment l) : IsComment l := by
  rw [IsComment, pieces_of_notMem h.2]
  exact List.forall_mem_singleton.mpr h.1

/-- A line that begins as a comment is one if the rest of it stays in it. -/
theorem isComment_append_iff {head : String} (h : OpensComment head) (text : String) :
    IsComment (head ++ text) ↔ Stays text := by
  obtain ⟨first, rest, hpieces⟩ :=
    List.exists_cons_of_ne_nil (Text.pieces_ne_nil (· == '\n') text.toList)
  have hfree : ∀ c ∈ head.toList, (c == '\n') = false := by
    intro c hc
    rw [beq_eq_false_iff_ne]
    rintro rfl
    exact h.2 hc
  rw [IsComment, String.toList_append, Text.pieces_append_of_forall_not hfree hpieces, Stays,
    hpieces, List.forall_mem_cons, List.tail_cons]
  exact and_iff_right (h.1.trans (List.prefix_append _ _))

theorem isComment_append {head text : String} (h : OpensComment head)
    (htext : '\n' ∉ text.toList) : IsComment (head ++ text) :=
  (isComment_append_iff h text).mpr (stays_of_notMem htext)

/-- A name and a kind with a colon between them stay in a comment if each of them does. -/
theorem stays_property_iff (name kind : String) :
    Stays (name ++ ": " ++ kind) ↔ Stays name ∧ Stays kind := by
  obtain ⟨first, rest, hkind⟩ :=
    List.exists_cons_of_ne_nil (Text.pieces_ne_nil (· == '\n') kind.toList)
  have hcolon : Text.pieces (· == '\n') (": ".toList ++ kind.toList) =
      (':' :: ' ' :: first) :: rest :=
    Text.pieces_append_of_forall_not (by simp) hkind
  obtain ⟨front, last, hname, happend⟩ := Text.exists_pieces_append (· == '\n') name.toList
  have hwhole := happend _ _ _ hcolon
  rw [Stays, Stays, Stays, String.toList_append, String.toList_append, List.append_assoc, hwhole,
    hname, hkind, List.tail_cons]
  cases front with
  | nil => simp
  | cons head front =>
    have hlast : "//".toList <+: last ++ ':' :: ' ' :: first ↔ "//".toList <+: last := by
      match last with
      | [] => simp
      | [c] => simp
      | c :: d :: last => simp
    simp only [List.cons_append, List.tail_cons, List.forall_mem_append, List.forall_mem_cons,
      List.not_mem_nil, IsEmpty.forall_iff, implies_true, hlast, true_and, and_assoc]

/-! The notes of a schema. -/

theorem isComment_item (text : String) : IsComment ("// - " ++ text) ↔ Stays text :=
  isComment_append_iff (by decide) text

theorem listNotes_iff {heading : String} (hheading : '\n' ∉ heading.toList)
    (items : List String) :
    (∀ l ∈ listNotes heading items, IsComment l) ↔ ∀ t ∈ items, Stays t := by
  rw [listNotes]
  split
  · next hempty => simp [List.isEmpty_iff.mp hempty]
  · have hhead : OpensComment ("// " ++ heading ++ ":") := ⟨by simp, by simp [hheading]⟩
    rw [List.forall_mem_cons, List.forall_mem_map, and_iff_right (isComment_of_opens hhead)]
    exact forall₂_congr fun t _ => isComment_item t

theorem shapeNotes_iff (schema : Schema) :
    (∀ l ∈ shapeNotes schema ++ propertyNotes schema, IsComment l) ↔
      ∀ t ∈ shapeTexts schema, Stays t := by
  rw [List.forall_mem_append, shapeNotes, propertyNotes, shapeTexts]
  cases schema.shape with
  | enumeration values =>
    -- A value is written as JSON text, which has no line feed.
    have hvalue : ∀ v : Json, IsComment ("// - " ++ v.render) := fun v =>
      isComment_append (by decide) (newline_notMem_render v)
    have hhead : IsComment "// Enum values:" := isComment_of_opens (by decide)
    simp [hvalue, hhead]
  | array items =>
    cases items with
    | none => simp
    | some items =>
      have hitems : IsComment ("// Items type: " ++ items.kindLabel) ↔ Stays items.kindLabel :=
        isComment_append_iff (by decide) _
      simp [hitems]
  | reference target =>
    have htarget : IsComment ("// Reference: " ++ target) ↔ Stays target :=
      isComment_append_iff (by decide) target
    simp [htarget]
  | object properties required =>
    rw [List.forall_mem_append, listNotes_iff (by decide), listNotes_iff (by decide),
      List.forall_mem_append, List.forall_mem_map, List.forall_mem_flatMap]
    simp [stays_property_iff]
  | oneOf variants => simp
  | untyped => simp
  | primitive kind format => simp

theorem schemaNotes_begins_iff (key : String) (schema : Schema) :
    AllBegin "//" (schemaNotes key schema) ↔ ∀ t ∈ rawTexts key schema, Stays t := by
  have hkey : IsComment ("// Schema: " ++ key) ↔ Stays key := isComment_append_iff (by decide) key
  have hkind : IsComment ("// Type: " ++ schema.kindLabel) ↔ Stays schema.kindLabel :=
    isComment_append_iff (by decide) _
  have hformat : IsComment ("// Format: " ++ formatOf schema) ↔ Stays (formatOf schema) :=
    isComment_append_iff (by decide) _
  have hdescription : ∀ d, IsComment ("// Description: " ++ onOneLine d) := fun d =>
    isComment_append (by decide) (newline_notMem_onOneLine d)
  have hdefault : ∀ v : Json, IsComment ("// Default value: " ++ v.render) := fun v =>
    isComment_append (by decide) (newline_notMem_render v)
  have hnullable : ∀ b, IsComment ("// Nullable: " ++ truth b) := fun b =>
    isComment_append (by decide) (newline_notMem_truth b)
  have hdeprecated : ∀ b, IsComment ("// Deprecated: " ++ truth b) := fun b =>
    isComment_append (by decide) (newline_notMem_truth b)
  have hlines : AllBegin "//" (schemaNotes key schema) ↔ ∀ l ∈ _, IsComment l :=
    allBegin_lines_iff "//" _
  have htexts : (∀ t ∈ rawTexts key schema, Stays t) ↔ _ := List.forall_mem_append
  -- The lines about the shape stand in two groups, between them the default and the flags.
  rw [hlines, htexts, ← shapeNotes_iff]
  simp only [List.forall_mem_append, List.forall_mem_cons, List.not_mem_nil, IsEmpty.forall_iff,
    implies_true, and_true, hkey, hkind, hformat, hnullable, hdeprecated]
  simp [hdescription, hdefault, and_assoc]

/-! Doc comments. -/

theorem newline_notMem_linesAfter {read s line : List Char} (hread : '\n' ∉ read)
    (h : line ∈ Text.linesAfter read s) : '\n' ∉ line := by
  fun_induction Text.linesAfter read s with
  | case1 read hempty => simp at h
  | case2 read hempty =>
    rw [List.mem_singleton.mp h, List.mem_reverse]
    exact hread
  | case3 read rest ih =>
    rcases List.mem_cons.mp h with rfl | h
    · rw [List.mem_reverse]
      split
      · exact fun hmem => hread (List.mem_of_mem_tail hmem)
      · exact hread
    · exact ih (by simp) h
  | case4 read c rest hc ih =>
    refine ih ?_ h
    rw [List.mem_cons, not_or]
    exact ⟨fun heq => hc heq.symm, hread⟩

theorem newline_notMem_docLine {indent : String} (hindent : '\n' ∉ indent.toList)
    {line : List Char} (hline : '\n' ∉ line) : '\n' ∉ (docLine indent line).toList := by
  rw [docLine]
  split
  · simp [hindent]
  · have htrim : '\n' ∉ Text.trimEnd line := by
      rw [Text.trimEnd, List.mem_reverse]
      intro hmem
      have hsuffix := List.dropWhile_suffix Text.isBlank (l := line.reverse)
      exact hline (List.mem_reverse.mp (hsuffix.subset hmem))
    simp [hindent, htrim]

theorem prefix_docLine (indent : String) (line : List Char) :
    (indent ++ "///").toList <+: (docLine indent line).toList := by
  rw [docLine]
  split
  · exact List.prefix_rfl
  · have hmark : "///".toList <+: "/// ".toList := by decide
    rw [String.toList_append, String.toList_append, String.toList_append, List.append_assoc]
    exact (List.prefix_append_right_inj _).mpr (hmark.trans (List.prefix_append _ _))

/-- A doc comment is nothing but doc lines at its indent, unless the indent is cut itself. -/
theorem docComment_begins_iff (text : Option String) (indent : String) :
    AllBegin (indent ++ "///") (docComment text indent) ↔
      '\n' ∉ indent.toList ∨ docComment text indent = "" := by
  constructor
  · intro hbegin
    by_contra hbad
    obtain ⟨hfeed, hne⟩ := not_or.mp hbad
    cases text with
    | none => exact hne rfl
    | some text =>
      rw [docComment, allBegin_lines_iff] at hbegin
      cases hcut : Text.lines text.toList with
      | nil => exact hne (by rw [docComment, hcut]; rfl)
      | cons line rest =>
        -- A mark with a line feed begins no piece.
        obtain ⟨piece, _, hpieces⟩ := List.exists_cons_of_ne_nil
          (Text.pieces_ne_nil (· == '\n') (docLine indent line).toList)
        have hpiece : piece ∈ Text.pieces (· == '\n') (docLine indent line).toList :=
          hpieces ▸ List.mem_cons_self
        have hprefix := hbegin (docLine indent line) (by simp [hcut]) piece hpiece
        have hmem : '\n' ∈ piece := hprefix.subset (by simpa using not_not.mp hfeed)
        exact absurd (Text.mem_pieces hpiece hmem).2 (by decide)
  · rintro (hindent | hempty)
    · cases text with
      | none => exact fun line hline => absurd hline (by simp [docComment, textLines, Text.pieces])
      | some text =>
        rw [docComment, allBegin_lines_iff]
        refine List.forall_mem_map.mpr fun line hline => ?_
        have hfree := newline_notMem_linesAfter List.not_mem_nil hline
        rw [pieces_of_notMem (newline_notMem_docLine hindent hfree)]
        exact List.forall_mem_singleton.mpr (prefix_docLine indent line)
    · rw [hempty]
      exact fun line hline => absurd hline (by simp [textLines, Text.pieces])

/-- The notes of a schema are nothing but line comments exactly when every text that stands in them
as it is stays in its line; a doc comment is nothing but doc lines at its indent unless the indent
itself has a line feed. -/
theorem comments_stay_iff (key : String) (schema : Schema) (text : Option String)
    (indent : String) :
    (AllBegin "//" (schemaNotes key schema) ↔ ∀ t ∈ rawTexts key schema, Stays t) ∧
      (AllBegin (indent ++ "///") (docComment text indent) ↔
        '\n' ∉ indent.toList ∨ docComment text indent = "") :=
  ⟨schemaNotes_begins_iff key schema, docComment_begins_iff text indent⟩

/-- A required name with a line feed in it brings a line of code into the notes. -/
theorem spilledRequired_leaves :
    let schema := Schema.node {}
      (.object [("id", .node {} (.primitive "string" none))]
        ["id\npub fn spilled() \x7b\x7d"])
    "pub fn spilled() \x7b\x7d".toList ∈ textLines (schemaNotes "item" schema) ∧
      ¬AllBegin "//" (schemaNotes "item" schema) := by
  intro schema
  rw [schemaNotes_begins_iff, schemaNotes, textLines_lines]
  decide

end ApiForge.Emit
