import ApiForge.Emit.Unit
import ApiForge.Proofs.CodeReading
import ApiForge.Proofs.CommentLines
import ApiForge.Proofs.EnumUnit
import ApiForge.Proofs.FileStem

/-!
The wire names that units tell. A unit is read as code, and a wire name is the text of a literal
right behind `rename =`. What stands around the literals, comments of any content among it, is read
as no text. Main statements: a record tells the wire names of its fields (`reads_recordUnit`) and an
enumeration its listed texts (`reads_enumerationUnit`).
-/

namespace ApiForge.Emit

open Code

/-! What is read. -/

/-- How much of `rename =` has come right before. -/
inductive Heard where
  | nothing
  | name
  | sign

/-- How much of `rename =` has come before what follows a lexeme. -/
def Heard.after (heard : Heard) : Lexeme → Heard
  | .word s => if s = "rename".toList then .name else .nothing
  | .mark c => match heard with
    | .name => if c = '=' then .sign else .nothing
    | _ => .nothing
  | .text _ => .nothing

/-- The text of a lexeme that stands right behind `rename =`. -/
def Heard.told : Heard → Lexeme → List String
  | .sign, .text s => [String.ofList s]
  | _, _ => []

def renamesFrom (heard : Heard) : List Lexeme → List String
  | [] => []
  | l :: rest => heard.told l ++ renamesFrom (heard.after l) rest

/-- The texts behind `rename =` in a unit that can be read as code. -/
def renames? (unit : String) : Option (List String) :=
  (lexemes? unit.toList).map (renamesFrom .nothing)

/-! Pieces of units. -/

/-- A piece of a unit from the beginning of a line to the beginning of another, which tells some
names. -/
def Reads (s : String) (names : List String) : Prop :=
  ∃ found, readFrom (.code []) s.toList = some (found, .code []) ∧
    ∀ heard, renamesFrom heard found = names

theorem exists_renamesFrom_append (found : List Lexeme) (heard : Heard) :
    ∃ after, ∀ more, renamesFrom heard (found ++ more) =
      renamesFrom heard found ++ renamesFrom after more := by
  induction found generalizing heard with
  | nil => exact ⟨heard, fun more => rfl⟩
  | cons l found ih =>
    obtain ⟨after, hafter⟩ := ih (heard.after l)
    refine ⟨after, fun more => ?_⟩
    rw [List.cons_append, renamesFrom, renamesFrom, hafter, List.append_assoc]

theorem renamesFrom_of_silent {found : List Lexeme} (h : Silent found) (heard : Heard) :
    renamesFrom heard found = [] := by
  induction found generalizing heard with
  | nil => rfl
  | cons l found ih =>
    obtain ⟨hl, hfound⟩ := List.forall_mem_cons.mp h
    rw [renamesFrom, ih hfound, List.append_nil]
    cases l with
    | text s => exact absurd rfl (hl s)
    | word s => cases heard <;> rfl
    | mark c => cases heard <;> rfl

theorem reads_empty : Reads "" [] := ⟨[], rfl, fun _ => rfl⟩

theorem Reads.append {s t : String} {names more : List String} (hs : Reads s names)
    (ht : Reads t more) : Reads (s ++ t) (names ++ more) := by
  obtain ⟨found, hfound, hnames⟩ := hs
  obtain ⟨later, hlater, hmore⟩ := ht
  refine ⟨found ++ later, ?_, fun heard => ?_⟩
  · rw [String.toList_append]
    exact readFrom_append hfound hlater
  · obtain ⟨after, happend⟩ := exists_renamesFrom_append found heard
    rw [happend, hnames, hmore]

/-- Pieces without names before and behind do not count. -/
theorem Reads.append_left {s t : String} {names : List String} (hs : Reads s [])
    (ht : Reads t names) : Reads (s ++ t) names := hs.append ht

theorem Reads.append_right {s t : String} {names : List String} (hs : Reads s names)
    (ht : Reads t []) : Reads (s ++ t) names := by
  have h := hs.append ht
  rwa [List.append_nil] at h

theorem Reads.renames? {unit : String} {names : List String} (h : Reads unit names) :
    renames? unit = some names := by
  obtain ⟨found, hfound, hnames⟩ := h
  have hend : (Spot.code []).finish? = some [] := rfl
  simp [Emit.renames?, lexemes?, hfound, hend, hnames]

/-! Lines. -/

theorem reads_inert {l : String} (h : Inert l.toList) : Reads (l ++ "\n") [] := by
  obtain ⟨found, hfound, hsilent⟩ := readFrom_inert_line h
  refine ⟨found, ?_, renamesFrom_of_silent hsilent⟩
  rw [String.toList_append]
  exact hfound

/-- A comment line, behind blanks or at the beginning of its line. -/
def CommentLine (l : List Char) : Prop :=
  ∃ indent s, l = indent ++ '/' :: '/' :: s ∧ (∀ c ∈ indent, c = ' ') ∧ '\n' ∉ s

theorem reads_comment {l : String} (h : CommentLine l.toList) : Reads (l ++ "\n") [] := by
  obtain ⟨indent, s, hl, hindent, hs⟩ := h
  refine ⟨[], ?_, fun _ => rfl⟩
  rw [String.toList_append, hl]
  exact readFrom_comment_line hindent hs

theorem reads_lines {ls : List String} (h : ∀ l ∈ ls, Reads (l ++ "\n") []) :
    Reads (lines ls) [] := by
  induction ls with
  | nil => exact reads_empty
  | cons l ls ih =>
    obtain ⟨hl, hls⟩ := List.forall_mem_cons.mp h
    rw [lines, List.map_cons, String.join_cons]
    exact hl.append_left (ih hls)

theorem reads_blankLine : Reads "\n" [] :=
  reads_inert (l := "") (by decide)

theorem reads_closing : Reads ("\x7d" ++ "\n") [] :=
  reads_inert (l := "\x7d") (by decide)

/-- The beginning of a unit tells no name, where the text about its origin stays in its line. -/
theorem reads_prelude {namespaceName : String} (hname : '\n' ∉ namespaceName.toList)
    {imports : List String} (himports : ∀ i ∈ imports, Inert (braced i).toList) :
    Reads (prelude namespaceName imports) [] := by
  have horigin : CommentLine ("//! Generated from \x60" ++ namespaceName ++ "\x60.").toList :=
    ⟨[], "! Generated from \x60".toList ++ namespaceName.toList ++ "\x60.".toList, by simp, nofun,
      by simp [hname]⟩
  have hlints : Inert ("#![allow(" ++ joined ", " [unusedImports] ++ ")]").toList := by
    decide
  refine ((reads_lines ?_).append_left (reads_lines ?_)).append_right reads_blankLine
  · rw [List.forall_mem_cons, List.forall_mem_cons, List.forall_mem_singleton]
    exact ⟨reads_comment horigin, reads_inert hlints, reads_inert (by decide)⟩
  · exact List.forall_mem_map.mpr fun i hi => reads_inert (himports i hi)

/-- A doc comment tells no name, whatever it says. -/
theorem reads_docComment (text : Option String) {indent : String}
    (hindent : ∀ c ∈ indent.toList, c = ' ') : Reads (docComment text indent) [] := by
  cases text with
  | none => exact reads_empty
  | some text =>
    refine reads_lines (List.forall_mem_map.mpr fun line hline => reads_comment ?_)
    have hfeed : '\n' ∉ indent.toList := fun hmem => absurd (hindent _ hmem) (by decide)
    have hfree := newline_notMem_docLine hfeed (newline_notMem_linesAfter List.not_mem_nil hline)
    obtain ⟨s, hs⟩ := prefix_docLine indent line
    refine ⟨indent.toList, '/' :: s, ?_, hindent, fun hmem => hfree ?_⟩
    · rw [← hs]
      simp
    · have hmem : '\n' ∈ s := by simpa using hmem
      rw [← hs]
      simp [hmem]

/-- The pieces of a text with their line feeds make up the text. -/
theorem flatMap_pieces (s : List Char) :
    (Text.pieces (· == '\n') s).flatMap (· ++ ['\n']) = s ++ ['\n'] := by
  induction s with
  | nil => rfl
  | cons c s ih =>
    rw [Text.pieces]
    split
    · next hc =>
      rw [beq_iff_eq] at hc
      rw [List.flatMap_cons, ih, hc]
      rfl
    · obtain ⟨first, more, heq⟩ := List.exists_cons_of_ne_nil (Text.pieces_ne_nil (· == '\n') s)
      rw [heq] at ih ⊢
      rw [List.flatMap_cons] at ih ⊢
      rw [List.cons_append, List.cons_append, ih]
      rfl

/-- What is nothing but line comments tells no name. -/
theorem reads_isComment {l : String} (h : IsComment l) : Reads (l ++ "\n") [] := by
  have hpieces : ∀ ps : List (List Char), (∀ p ∈ ps, "//".toList <+: p ∧ '\n' ∉ p) →
      readFrom (.code []) (ps.flatMap (· ++ ['\n'])) = some ([], .code []) := by
    intro ps hps
    induction ps with
    | nil => rfl
    | cons p ps ih =>
      obtain ⟨⟨⟨s, hs⟩, hfree⟩, hrest⟩ := List.forall_mem_cons.mp hps
      rw [← hs, List.mem_append, not_or] at hfree
      have hindent : ∀ c ∈ ([] : List Char), c = ' ' := nofun
      rw [List.flatMap_cons, ← hs]
      exact readFrom_append (readFrom_comment_line hindent hfree.2) (ih hrest)
  refine ⟨[], ?_, fun _ => rfl⟩
  rw [String.toList_append]
  refine (congrArg _ (flatMap_pieces l.toList).symm).trans (hpieces _ fun p hp => ⟨h p hp, ?_⟩)
  exact fun hmem => absurd (Text.mem_pieces hp hmem).2 (by decide)

/-- Notes of schemas whose texts stay in their comments. -/
def PlainNotes (notes : Option String) : Prop :=
  ∀ n ∈ notes, ∃ key schema, n = schemaNotes key schema ∧ ∀ t ∈ rawTexts key schema, Stays t

theorem reads_notes {notes : Option String} (h : PlainNotes notes) :
    Reads (notes.getD "") [] := by
  cases notes with
  | none => exact reads_empty
  | some n =>
    obtain ⟨key, schema, rfl, hstays⟩ := h n rfl
    have hbegin := (schemaNotes_begins_iff key schema).mpr hstays
    exact reads_lines fun l hl => reads_isComment ((allBegin_lines_iff _ _).mp hbegin l hl)

/-! Attributes. -/

/-- What a piece between lexemes tells, and where it leads. -/
def telling? (s : String) : Option (List String × Spot) :=
  (readFrom (.code []) s.toList).map fun (found, last) => (renamesFrom .nothing found, last)

/-- An attribute that begins with a name tells this name, if nothing behind it tells another. -/
theorem reads_attribute (wire : String) {ending : String}
    (hending : telling? ending = some ([], .code [])) :
    Reads ("    #[serde(rename = " ++ Text.literal wire ++ ending) [wire] := by
  have hopening : readFrom (.code []) "    #[serde(rename = ".toList =
      some ([.mark '#', .mark '[', .word "serde".toList, .mark '(', .word "rename".toList,
        .mark '='], .code []) := by
    decide
  obtain ⟨⟨found, last⟩, hfound, heq⟩ := Option.map_eq_some_iff.mp hending
  obtain ⟨hnames, rfl⟩ := Prod.mk.inj heq
  have hread :=
    readFrom_append (readFrom_append hopening (readFrom_literalChars wire.toList)) hfound
  have htext : ("    #[serde(rename = " ++ Text.literal wire ++ ending).toList =
      "    #[serde(rename = ".toList ++ Text.literalChars wire.toList ++ ending.toList := by
    rw [String.toList_append, String.toList_append, Text.toList_literal]
  rw [← htext] at hread
  refine ⟨_, hread, fun heard => ?_⟩
  have hsign : heard.after (.mark '#') = .nothing := by cases heard <;> rfl
  have htold : heard.told (.mark '#') = [] := by cases heard <;> rfl
  simp only [List.cons_append, List.nil_append, renamesFrom, hsign, htold]
  simp [Heard.after, Heard.told, hnames]

/-! Records. -/

theorem inert_escapeKeyword {s : String} (h : Inert s.toList) :
    Inert (Name.escapeKeyword s).toList := by
  rw [Name.escapeKeyword]
  split_ifs
  · rw [String.toList_append]
    exact h.append (by decide)
  · rw [String.toList_append]
    exact Inert.append (by decide) h
  · exact h

theorem inert_snakeCase (name : String) : Inert (Name.snakeCase name).toList := by
  have hall : breaks.all (fun d => !Name.isStemChar d) = true := by decide
  intro c hc hbreaks
  have hother := List.all_eq_true.mp hall c hbreaks
  rw [Name.isStemChar_of_mem_snakeCase hc] at hother
  cases hother

theorem inert_snakeIdent (name : String) : Inert (Name.snakeIdent name).toList := by
  simp only [Name.snakeIdent]
  split
  · decide
  · apply inert_escapeKeyword
    split
    · rw [String.toList_append]
      exact Inert.append (by decide) (inert_snakeCase name)
    · exact inert_snakeCase name

theorem reads_defaultNotes (f : ModelField) : Reads (defaultNotes f) [] := by
  rw [defaultNotes]
  split
  · next v hdefault =>
    have hbare : Reads (if f.description.isSome then "    ///\n" else "") [] := by
      split
      · exact reads_comment (l := "    ///") ⟨"    ".toList, ['/'], rfl, by simp, by simp⟩
      · exact reads_empty
    have hline : CommentLine ("    /// Default: \x60" ++ v.render ++ "\x60").toList :=
      ⟨"    ".toList, "/ Default: \x60".toList ++ v.render.toList ++ ['\x60'], by simp, by simp,
        by simp [newline_notMem_render v]⟩
    have htext : ∀ s : String, s ++ "    /// Default: \x60" ++ v.render ++ "\x60\n" =
        s ++ ("    /// Default: \x60" ++ v.render ++ "\x60" ++ "\n") := by
      intro s
      apply String.toList_injective
      simp
    rw [htext]
    exact hbare.append_left (reads_comment hline)
  · exact reads_empty

def fieldLine (f : ModelField) : String := "    pub " ++ f.ident ++ ": " ++ f.expression ++ ","

/-- A field tells its wire name, and then what the line that declares it tells. -/
theorem reads_fieldBlock {f : ModelField} {names : List String}
    (hf : Reads (fieldLine f ++ "\n") names) : Reads (fieldBlock f) (f.wireName :: names) := by
  have hindent : ∀ c ∈ "    ".toList, c = ' ' := by simp
  have hdeprecated : Reads (if f.deprecated then "    #[deprecated]\n" else "") [] := by
    split
    · exact reads_inert (l := "    #[deprecated]") (by decide)
    · exact reads_empty
  have hattribute : ∃ ending, telling? ending = some ([], .code []) ∧
      "    #[serde(" ++ joined ", " (fieldAttributes f) ++ ")]\n" =
        "    #[serde(rename = " ++ Text.literal f.wireName ++ ending := by
    cases hrequired : f.required with
    | true =>
      refine ⟨")]\n", by decide, ?_⟩
      apply String.toList_injective
      simp [joined, fieldAttributes, hrequired]
    | false =>
      cases hnullable : f.nullable with
      | true =>
        refine ⟨", default)]\n", by decide, ?_⟩
        apply String.toList_injective
        simp [joined, fieldAttributes, hrequired, hnullable]
      | false =>
        refine ⟨", default, skip_serializing_if = \"Option::is_none\")]\n", by decide, ?_⟩
        apply String.toList_injective
        simp [joined, fieldAttributes, hrequired, hnullable]
  obtain ⟨ending, hending, hattributes⟩ := hattribute
  have hblock : fieldBlock f = docComment f.description "    " ++ defaultNotes f ++
      (if f.deprecated then "    #[deprecated]\n" else "") ++
      ("    #[serde(rename = " ++ Text.literal f.wireName ++ ending) ++ (fieldLine f ++ "\n") := by
    rw [← hattributes, fieldBlock, fieldLine]
    apply String.toList_injective
    simp
  rw [hblock]
  have hnotes := (reads_docComment f.description hindent).append_left (reads_defaultNotes f)
  exact ((hnotes.append_left hdeprecated).append_left
    (reads_attribute f.wireName hending)).append hf

/-- A line that declares a field tells no name, if the type stays what it is in the code. -/
theorem reads_fieldLine {f : ModelField} (hf : Inert f.expression.toList) :
    Reads (fieldLine f ++ "\n") [] := by
  have hident : Inert f.ident.toList := inert_snakeIdent f.name
  apply reads_inert
  simp only [fieldLine, String.toList_append]
  exact (((Inert.append (by decide) hident).append (by decide)).append hf).append (by decide)

theorem reads_joined {blocks : List String} {told : List (List String)}
    (h : List.Forall₂ Reads blocks told) : Reads (joined "\n" blocks) told.flatten := by
  induction h with
  | nil => exact reads_empty
  | cons hblock hrest ih =>
    cases hrest with
    | nil => simpa [joined] using hblock
    | cons hnext hlater =>
      rw [joined_cons_cons]
      exact (hblock.append_right reads_blankLine).append ih

theorem reads_structBody {name : String} (hname : Inert name.toList) {fields : List ModelField}
    {told : List (List String)}
    (hfields : List.Forall₂ (fun f names => Reads (fieldLine f ++ "\n") names) fields told) :
    Reads (structBody name fields)
      (fields.zipWith (fun f names => f.wireName :: names) told).flatten := by
  have hopening : Inert ("pub struct " ++ name ++ " \x7b").toList := by
    simp only [String.toList_append]
    exact (Inert.append (by decide) hname).append (by decide)
  have hblocks : Reads (joined "\n" (fields.map fieldBlock))
      (fields.zipWith (fun f names => f.wireName :: names) told).flatten := by
    apply reads_joined
    induction hfields with
    | nil => exact .nil
    | cons hf _ ih => exact .cons (reads_fieldBlock hf) ih
  have hderive :=
    reads_inert (l := "#[derive(Debug, Clone, PartialEq, Serialize, Deserialize)]") (by decide)
  have htext : structBody name fields =
      "#[derive(Debug, Clone, PartialEq, Serialize, Deserialize)]" ++ "\n" ++
        ("pub struct " ++ name ++ " \x7b" ++ "\n") ++ joined "\n" (fields.map fieldBlock) ++
        ("\x7d" ++ "\n") := by
    unfold structBody
    apply String.toList_injective
    simp
  rw [htext]
  exact ((hderive.append_left (reads_inert hopening)).append_left hblocks).append_right
    reads_closing

/-- The unit of a record tells the wire name of each field in order, and behind it what the line
that declares the field tells. -/
theorem reads_recordUnit_of_lines {r : Record} {notes : Option String} (hnotes : PlainNotes notes)
    (hnamespace : '\n' ∉ r.namespaceName.toList) (hname : Inert r.name.toList)
    {told : List (List String)}
    (hfields : List.Forall₂ (fun f names => Reads (fieldLine f ++ "\n") names) r.fields told) :
    Reads (recordUnit r notes)
      (r.fields.zipWith (fun f names => f.wireName :: names) told).flatten := by
  have hdeprecated : Reads (if r.deprecated then "#[deprecated]\n" else "") [] := by
    split
    · exact reads_inert (l := "#[deprecated]") (by decide)
    · exact reads_empty
  have hprelude : Reads (prelude r.namespaceName recordImports) [] := by
    refine reads_prelude hnamespace ?_
    rw [recordImports, List.forall_mem_cons, List.forall_mem_singleton]
    exact ⟨by decide, by decide⟩
  rw [recordUnit]
  exact (((hprelude.append_left (reads_notes hnotes)).append_left
    (reads_docComment r.description (by simp))).append_left hdeprecated).append_left
      (reads_structBody hname hfields)

/-- The unit of a record tells the wire names of its fields in order, whatever they are. -/
theorem reads_recordUnit {r : Record} {notes : Option String} (hnotes : PlainNotes notes)
    (hnamespace : '\n' ∉ r.namespaceName.toList) (hname : Inert r.name.toList)
    (hfields : ∀ f ∈ r.fields, Inert f.expression.toList) :
    Reads (recordUnit r notes) (r.fields.map (·.wireName)) := by
  have hlines : List.Forall₂ (fun f names => Reads (fieldLine f ++ "\n") names) r.fields
      (r.fields.map fun _ => []) := by
    rw [List.forall₂_map_right_iff, List.forall₂_same]
    exact fun f hf => reads_fieldLine (hfields f hf)
  have hread := reads_recordUnit_of_lines hnotes hnamespace hname hlines
  have htold : (r.fields.zipWith (fun f names => f.wireName :: names)
      (r.fields.map fun _ => [])).flatten = r.fields.map (·.wireName) := by
    rw [List.zipWith_map_right, List.zipWith_self, ← List.flatMap_def, List.map_eq_flatMap]
  rwa [htold] at hread

/-! Enumerations. -/

theorem reads_enumEntry (value : String) {ident : String} (h : Inert ident.toList) :
    Reads (enumEntry value ident) [value] := by
  have hline : Inert ("    " ++ ident ++ ",").toList := by
    simp only [String.toList_append]
    exact (Inert.append (by decide) h).append (by decide)
  have htext : enumEntry value ident =
      "    #[serde(rename = " ++ Text.literal value ++ ")]\n" ++
        ("    " ++ ident ++ "," ++ "\n") := by
    unfold enumEntry
    apply String.toList_injective
    simp
  have hending : telling? ")]\n" = some ([], .code []) := by decide
  rw [htext]
  exact (reads_attribute value hending).append_right (reads_inert hline)

theorem reads_enumEntries {values idents : List String} (hlength : idents.length = values.length)
    (hidents : ∀ ident ∈ idents, Inert ident.toList) :
    Reads (String.join (values.zipWith enumEntry idents)) values := by
  induction values generalizing idents with
  | nil => exact reads_empty
  | cons value values ih =>
    obtain ⟨ident, rest, rfl⟩ := List.exists_cons_of_length_pos (l := idents) (by simp [hlength])
    obtain ⟨hident, hrest⟩ := List.forall_mem_cons.mp hidents
    rw [List.zipWith_cons_cons, String.join_cons]
    exact (reads_enumEntry value hident).append (ih (by simpa using hlength) hrest)

/-- The unit of an enumeration tells the listed texts in order, whatever they are. -/
theorem reads_enumerationUnit {e : EnumType} {notes : Option String} (hnotes : PlainNotes notes)
    (hnamespace : '\n' ∉ e.namespaceName.toList) (hname : Inert e.name.toList) :
    Reads (enumerationUnit e notes) e.values := by
  have hprelude : Reads (prelude e.namespaceName [codingImport]) [] :=
    reads_prelude hnamespace (List.forall_mem_singleton.mpr (by decide))
  have hopening : Inert ("pub enum " ++ e.name ++ " \x7b").toList := by
    simp only [String.toList_append]
    exact (Inert.append (by decide) hname).append (by decide)
  have hderive := reads_inert
    (l := "#[derive(Debug, Clone, Copy, PartialEq, Eq, Hash, Serialize, Deserialize)]") (by decide)
  have hentries : Reads (String.join (e.values.zipWith enumEntry (enumIdents e.values)))
      e.values := by
    refine reads_enumEntries ?_ fun ident hident => Name.inert_of_mem_enumIdents hident
    rw [enumIdents, Name.length_freshAll, List.length_map]
  have htext : enumerationUnit e notes =
      prelude e.namespaceName [codingImport] ++ notes.getD "" ++ docComment e.description "" ++
        ("#[derive(Debug, Clone, Copy, PartialEq, Eq, Hash, Serialize, Deserialize)]" ++ "\n") ++
        ("pub enum " ++ e.name ++ " \x7b" ++ "\n") ++
        String.join (e.values.zipWith enumEntry (enumIdents e.values)) ++ ("\x7d" ++ "\n") := by
    unfold enumerationUnit
    apply String.toList_injective
    simp
  rw [htext]
  have hdescription : Reads (docComment e.description "") [] := reads_docComment _ (by simp)
  have hfront := (hprelude.append_left (reads_notes hnotes)).append_left hdescription
  exact (((hfront.append_left hderive).append_left (reads_inert hopening)).append_left
    hentries).append_right reads_closing

end ApiForge.Emit
