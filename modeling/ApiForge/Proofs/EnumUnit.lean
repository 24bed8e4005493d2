import ApiForge.Emit.Enumeration
import ApiForge.Proofs.Capital
import ApiForge.Proofs.CodeReading
import ApiForge.Proofs.FreshName
import ApiForge.Proofs.Pieces
import Mathlib.Order.Nat

/-!
Reading the units of enumerations. A unit is read line by line: after the line that opens the
enumeration there are two lines for each variant, its text on the wire and its identifier. Neither
of the two holds a line feed, whatever the listed text is. Main statement: a unit is read back as
the listed texts with their identifiers, in order (`declaredVariants?_enumerationUnit`).
-/

namespace ApiForge

namespace Text

open Code

def breakRuns : List CodeRun :=
  [⟨0xA, 0xA, 1⟩, ⟨0x22, 0x22, 1⟩, ⟨0x27, 0x27, 1⟩, ⟨0x2F, 0x2F, 1⟩]

theorem notMem_breaks_of_not_covers {c : Char} (h : CodeRun.covers breakRuns c.toNat = false) :
    c ∉ breaks := by
  have hall : breaks.all (fun d => CodeRun.covers breakRuns d.toNat) = true := by decide
  intro hc
  rw [List.all_eq_true.mp hall c hc] at h
  cases h

theorem notMem_breaks_of_isAlphanumeric {c : Char} (h : isAlphanumeric c = true) : c ∉ breaks := by
  have hall : breaks.all (fun d => !isAlphanumeric d) = true := by decide
  intro hc
  have hother := List.all_eq_true.mp hall c hc
  rw [h] at hother
  cases hother

/-- No letter has a character in its capital that breaks code. -/
theorem inert_toUppercase {c : Char} (hc : c ∉ breaks) : Inert (toUppercase c) := by
  rw [toUppercase]
  rcases CaseShift.apply_cases toUpperShifts toUpperTexts c with
    hsame | ⟨s, hs, hn, hmoved⟩ | ⟨codes, hmem, htext⟩
  · rw [hsame]
    exact List.forall_mem_singleton.mpr hc
  · have hall : toUpperShifts.all (CaseShift.avoids breakRuns) = true := by decide
    have havoids := CaseShift.not_covers_of_avoids (List.all_eq_true.mp hall s hs) hn
    rw [hmoved]
    refine List.forall_mem_singleton.mpr (notMem_breaks_of_not_covers ?_)
    rcases toNat_ofNat (c.toNat + s.distance).toNat with hcode | hcode
    · rwa [hcode]
    · rw [hcode]
      rfl
  · have hall : toUpperTexts.all (fun p => decide (Inert (p.2.map Char.ofNat))) = true := by
      decide
    rw [htext]
    exact of_decide_eq_true (List.all_eq_true.mp hall (c.toNat, codes) hmem)

end Text

namespace Name

open Code

theorem inert_titleChars {s : List Char} (hs : Inert s) (start : Bool) :
    Inert (titleChars start s) := by
  induction s generalizing start with
  | nil => exact nofun
  | cons c s ih =>
    obtain ⟨hc, hs⟩ := List.forall_mem_cons.mp hs
    rw [titleChars]
    split_ifs
    · exact ih hs true
    · exact (Text.inert_toUppercase hc).append (ih hs false)
    · exact List.forall_mem_cons.mpr ⟨hc, ih hs false⟩

theorem inert_titleWords (s : String) : Inert (titleWords s).toList := by
  rw [titleWords, String.toList_ofList]
  refine inert_titleChars (List.forall_mem_map.mpr fun c _ => ?_) true
  split
  · next halphanumeric => exact Text.notMem_breaks_of_isAlphanumeric halphanumeric
  · decide

theorem inert_variantIdent (value : String) : Inert (variantIdent value).toList := by
  have hwords := inert_titleWords value
  simp only [variantIdent]
  split_ifs
  · decide
  · rw [String.toList_append]
    exact Inert.append (by decide) hwords
  · decide
  · exact hwords

theorem inert_toString (n : Nat) : Inert (toString n).toList := by
  intro c hc hbreaks
  have hall : breaks.all (fun d => !d.isDigit) = true := by decide
  have hother := List.all_eq_true.mp hall c hbreaks
  rw [isDigit_of_mem_toString hc] at hother
  cases hother

theorem inert_candidate {wanted : String} (h : Inert wanted.toList) (k : Nat) :
    Inert (candidate wanted k).toList := by
  cases k with
  | zero => exact h
  | succ k =>
    rw [toList_candidate_succ]
    exact h.append (inert_toString _)

/-- The identifiers of an enumeration stay in their lines, whatever the listed texts are. -/
theorem inert_of_mem_enumIdents {values : List String} {ident : String}
    (h : ident ∈ Emit.enumIdents values) : Inert ident.toList := by
  obtain ⟨wanted, hwanted, k, rfl⟩ := exists_candidate_of_mem_freshAll h
  obtain ⟨value, -, rfl⟩ := List.mem_map.mp hwanted
  exact inert_candidate (inert_variantIdent value) k

end Name

namespace Emit

/-- What a unit says about a variant of its enumeration. -/
structure EnumVariant where
  wire : String
  ident : String
  deriving DecidableEq

def EnumVariant.wireValue (variant : EnumVariant) : Json := .str variant.wire

/-- The text on the wire that an attribute gives. -/
def variantWire? (line : List Char) : Option String :=
  if "    #[serde(rename = ".toList.isPrefixOf line then
    match Text.readLiteral? (line.drop 21) with
    | some (s, [')', ']']) => some (String.ofList s)
    | _ => none
  else none

def variantIdent? (line : List Char) : Option String :=
  if "    ".toList.isPrefixOf line && line.getLast? == some ',' then
    some (String.ofList (line.drop 4).dropLast)
  else none

/-- The variants that lines list up to the end of an enumeration. -/
def readVariants? : List (List Char) → Option (List EnumVariant)
  | [] => none
  | [line] => if line = ['\x7d'] then some [] else none
  | wireLine :: identLine :: rest => do
    let wire ← variantWire? wireLine
    let ident ← variantIdent? identLine
    let variants ← readVariants? rest
    return ⟨wire, ident⟩ :: variants

/-- The lines after the last one that opens a block. -/
def lastBlock (ls : List (List Char)) : List (List Char) :=
  (ls.reverse.takeWhile fun l => l.getLast? != some '\x7b').reverse

/-- The variants of the enumeration of a unit. -/
def declaredVariants? (unit : String) : Option (List EnumVariant) :=
  readVariants? (lastBlock (textLines unit))

/-! What the reader finds. -/

theorem lastBlock_append (front : List (List Char)) {opening : List Char}
    (hopening : opening.getLast? = some '\x7b') {block : List (List Char)}
    (hblock : ∀ l ∈ block, l.getLast? ≠ some '\x7b') :
    lastBlock (front ++ opening :: block) = block := by
  have hpass : ∀ l ∈ block.reverse, (l.getLast? != some '\x7b') = true := fun l hl =>
    bne_iff_ne.mpr (hblock l (List.mem_reverse.mp hl))
  rw [lastBlock, List.reverse_append, List.reverse_cons, List.append_assoc,
    List.takeWhile_append_of_pos hpass]
  simp [hopening]

/-- The block of a text that ends with it, line by line. -/
theorem lastBlock_textLines (front : String) {block : List String}
    (hfree : ∀ l ∈ block, '\n' ∉ l.toList)
    (hblock : ∀ l ∈ block, l.toList.getLast? ≠ some '\x7b') :
    lastBlock (textLines (front ++ "\x7b\n" ++ lines block)) = block.map String.toList := by
  obtain ⟨head, last, -, happend⟩ := Text.exists_pieces_append (· == '\n') front.toList
  have hopening : Text.pieces (· == '\n') (front.toList ++ ['\x7b']) =
      head ++ [last ++ ['\x7b']] := happend _ _ _ rfl
  have hbody : Text.pieces (· == '\n') (lines block).toList = block.map String.toList ++ [[]] := by
    have hpieces := pieces_lines_append hfree []
    rwa [List.append_nil] at hpieces
  have htext : (front ++ "\x7b\n" ++ lines block).toList =
      (front.toList ++ ['\x7b']) ++ '\n' :: (lines block).toList := by
    simp
  have hcut : Text.pieces (· == '\n') (front ++ "\x7b\n" ++ lines block).toList =
      (head ++ (last ++ ['\x7b']) :: block.map String.toList) ++ [[]] := by
    rw [htext, Text.pieces_append_cons (by rfl), hopening, hbody]
    simp
  rw [textLines, hcut, List.getLast?_concat, if_pos rfl, List.dropLast_concat]
  apply lastBlock_append
  · exact List.getLast?_concat
  · exact List.forall_mem_map.mpr hblock

def variantLines (variant : EnumVariant) : List String :=
  ["    #[serde(rename = " ++ Text.literal variant.wire ++ ")]", "    " ++ variant.ident ++ ","]

theorem variantWire?_line (wire : String) :
    variantWire? ("    #[serde(rename = " ++ Text.literal wire ++ ")]").toList = some wire := by
  have hliteral := Text.readLiteral?_literalChars wire.toList [')', ']']
  simp [variantWire?, Text.literal, hliteral]

theorem variantIdent?_line (ident : String) :
    variantIdent? ("    " ++ ident ++ ",").toList = some ident := by
  have hend : (' ' :: (ident.toList ++ [','])).getLast? = some ',' :=
    List.getLast?_concat (l := ' ' :: ident.toList)
  simp [variantIdent?, hend]

theorem readVariants?_lines (variants : List EnumVariant) :
    readVariants? ((variants.flatMap variantLines ++ ["\x7d"]).map String.toList) =
      some variants := by
  induction variants with
  | nil => simp [readVariants?]
  | cons variant variants ih =>
    rw [List.flatMap_cons, variantLines, List.append_assoc, List.cons_append, List.cons_append,
      List.nil_append, List.map_cons, List.map_cons, readVariants?, variantWire?_line,
      variantIdent?_line, ih]
    rfl

/-! The units of enumerations. -/

theorem enumEntry_eq (value ident : String) :
    enumEntry value ident = lines (variantLines ⟨value, ident⟩) := by
  unfold enumEntry variantLines lines
  apply String.toList_injective
  simp

theorem join_enumEntry (values idents : List String) :
    String.join (values.zipWith enumEntry idents) =
      lines ((values.zipWith EnumVariant.mk idents).flatMap variantLines) := by
  induction values generalizing idents with
  | nil => rfl
  | cons value values ih =>
    cases idents with
    | nil => rfl
    | cons ident idents =>
      rw [List.zipWith_cons_cons, List.zipWith_cons_cons, List.flatMap_cons, lines_append, ← ih,
        String.join_cons, enumEntry_eq]

def variantsOf (values : List String) : List EnumVariant :=
  values.zipWith EnumVariant.mk (enumIdents values)

theorem map_ident_variantsOf (values : List String) :
    (variantsOf values).map EnumVariant.ident = enumIdents values := by
  have hlength : (enumIdents values).length = values.length := by
    rw [enumIdents, Name.length_freshAll, List.length_map]
  rw [variantsOf, List.map_zipWith, ← List.map_uncurry_zip_eq_zipWith]
  exact List.map_snd_zip hlength.le

theorem newline_notMem_variantLines {variant : EnumVariant} (h : '\n' ∉ variant.ident.toList) :
    ∀ l ∈ variantLines variant, '\n' ∉ l.toList := by
  have hliteral : '\n' ∉ (Text.literal variant.wire).toList := by
    rw [Text.literal, String.toList_ofList]
    exact Text.newline_notMem_literalChars _
  rw [variantLines, List.forall_mem_cons, List.forall_mem_singleton]
  exact ⟨by simp [hliteral], by simp [h]⟩

theorem getLast?_variantLines (variant : EnumVariant) :
    ∀ l ∈ variantLines variant, l.toList.getLast? ≠ some '\x7b' := by
  have hend : ∀ {s t : String} {c : Char}, t.toList.getLast? = some c → c ≠ '\x7b' →
      (s ++ t).toList.getLast? ≠ some '\x7b' := by
    intro s t c ht hc
    rw [String.toList_append, List.getLast?_append, ht, Option.some_or]
    exact fun h => hc (Option.some.inj h)
  rw [variantLines, List.forall_mem_cons, List.forall_mem_singleton]
  have hclose : ")]".toList.getLast? = some ']' := by decide
  have hcomma : ",".toList.getLast? = some ',' := by decide
  exact ⟨hend hclose (by decide), hend hcomma (by decide)⟩

theorem declaredVariants?_enumerationUnit (e : EnumType) (notes : Option String) :
    declaredVariants? (enumerationUnit e notes) = some (variantsOf e.values) := by
  have hunit : enumerationUnit e notes =
      (prelude e.namespaceName [codingImport] ++ notes.getD "" ++ docComment e.description "" ++
        "#[derive(Debug, Clone, Copy, PartialEq, Eq, Hash, Serialize, Deserialize)]\n" ++
        "pub enum " ++ e.name ++ " ") ++ "\x7b\n" ++
        lines ((variantsOf e.values).flatMap variantLines ++ ["\x7d"]) := by
    unfold enumerationUnit
    rw [join_enumEntry, lines_append]
    apply String.toList_injective
    simp [lines, variantsOf]
  have hfree : ∀ l ∈ (variantsOf e.values).flatMap variantLines ++ ["\x7d"], '\n' ∉ l.toList := by
    rw [List.forall_mem_append, List.forall_mem_flatMap, List.forall_mem_singleton]
    refine ⟨fun variant hmem => newline_notMem_variantLines ?_, by decide⟩
    have hident : variant.ident ∈ enumIdents e.values := by
      rw [← map_ident_variantsOf]
      exact List.mem_map_of_mem hmem
    exact (Name.inert_of_mem_enumIdents hident).newline_notMem
  have hblock : ∀ l ∈ (variantsOf e.values).flatMap variantLines ++ ["\x7d"],
      l.toList.getLast? ≠ some '\x7b' := by
    rw [List.forall_mem_append, List.forall_mem_flatMap, List.forall_mem_singleton]
    exact ⟨fun variant _ => getLast?_variantLines variant, by decide⟩
  -- No line of a variant ends in a brace, so whatever stands before, the block is that of the enum.
  rw [declaredVariants?, hunit, lastBlock_textLines _ hfree hblock, readVariants?_lines]

end Emit

end ApiForge
