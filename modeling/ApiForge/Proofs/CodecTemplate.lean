import ApiForge.Emit.Codec
import ApiForge.Proofs.EnumUnit
import ApiForge.Proofs.Filling

/-!
The fixed code of units that decode unions, with its marks filled. Every line up to the one that
opens the arms holds one mark at most, and what it is filled with has none, so no filling is taken
for a mark that is filled later; the arms are filled in last. Main statement:
`exists_filled_codecTemplate`.
-/

namespace ApiForge.Emit

def armsOpening : String := "                match index \x7b"

def IsMark (mark : String) : Prop := ∃ rest, mark.toList = '_' :: '_' :: rest

theorem isMark_marks : IsMark markerMark ∧ IsMark tableMark ∧ IsMark armsMark :=
  ⟨⟨_, rfl⟩, ⟨_, rfl⟩, ⟨_, rfl⟩⟩

theorem fill_of_not_hasMark {mark l : String} (hmark : IsMark mark)
    (hl : Text.hasMark l.toList = false) (filling : String) : fill mark filling l = l := by
  obtain ⟨rest, hrest⟩ := hmark
  rw [fill, hrest, Text.replaceAll_of_not_hasMark hl, String.ofList_toList]

/-- How many characters of a line tell that it is not the one that opens the arms. -/
def leadLength : Nat := 17

/-- Whether a mark stands in a line once and far behind its beginning, and nothing around it could
make another mark with what fills it. -/
def hasSlot (mark line : List Char) : Bool :=
  match Text.cut? mark line with
  | some (before, behind) =>
    !Text.hasMark before && !Text.hasMark behind && before.getLast? != some '_'
      && behind.head? != some '_' && Nat.ble leadLength before.length
  | none => false

theorem fill_of_hasSlot {mark filling l : String} (hmark : IsMark mark)
    (hl : hasSlot mark.toList l.toList = true) (hfilling : Text.hasMark filling.toList = false) :
    Text.hasMark (fill mark filling l).toList = false ∧
      (fill mark filling l).toList.take leadLength = l.toList.take leadLength := by
  obtain ⟨rest, hrest⟩ := hmark
  rw [hasSlot] at hl
  split at hl
  · next before behind hcut =>
    simp only [Bool.and_eq_true, Bool.not_eq_true', bne_iff_ne, Nat.ble_eq] at hl
    obtain ⟨⟨⟨⟨hbefore, hbehind⟩, hlast⟩, hhead⟩, hlong⟩ := hl
    have hwhole := Text.append_of_cut? hcut
    have hfilled : (fill mark filling l).toList = before ++ filling.toList ++ behind := by
      rw [fill, String.toList_ofList, Text.replaceAll_of_cut? (by simp [hrest]) hcut, hrest,
        Text.replaceAll_of_not_hasMark hbehind]
    rw [hfilled, ← hwhole]
    constructor
    · exact Text.hasMark_append (Text.hasMark_append hbefore hfilling (.inl hlast)) hbehind
        (.inr hhead)
    · rw [List.append_assoc, List.append_assoc, List.take_append_of_le_length hlong,
        List.take_append_of_le_length hlong]
  · cases hl

/-- Whether a line of the template is filled in one place at most, and with no arms. -/
def isSteady (line : List Char) : Bool :=
  !Text.hasMark line || hasSlot markerMark.toList line ||
    !Text.occurs markerMark.toList line && hasSlot tableMark.toList line

def filledLine (marker table arms line : String) : String :=
  fill armsMark arms (fill tableMark table (fill markerMark marker line))

/-- A steady line is filled with no arms, and keeps its beginning. -/
theorem filledLine_of_isSteady {marker table line : String}
    (hmarker : Text.hasMark marker.toList = false) (htable : Text.hasMark table.toList = false)
    (hline : isSteady line.toList = true) (arms : String) :
    filledLine marker table arms line = fill tableMark table (fill markerMark marker line) ∧
      (filledLine marker table arms line).toList.take leadLength =
        line.toList.take leadLength := by
  obtain ⟨hm, ht, ha⟩ := isMark_marks
  rw [filledLine]
  simp only [isSteady, Bool.or_eq_true, Bool.and_eq_true, Bool.not_eq_true'] at hline
  rcases hline with (hplain | hslot) | ⟨hnone, hslot⟩
  · rw [fill_of_not_hasMark hm hplain, fill_of_not_hasMark ht hplain, fill_of_not_hasMark ha hplain]
    exact ⟨rfl, rfl⟩
  · obtain ⟨hplain, htake⟩ := fill_of_hasSlot hm hslot hmarker
    rw [fill_of_not_hasMark ht hplain, fill_of_not_hasMark ha hplain]
    exact ⟨rfl, htake⟩
  · rw [fill_of_not_occurs hnone]
    obtain ⟨hplain, htake⟩ := fill_of_hasSlot ht hslot htable
    rw [fill_of_not_hasMark ha hplain]
    exact ⟨rfl, htake⟩

/-- The line that takes the arms before what stands in it anyway. -/
def armsEnding : String :=
  "                    _ => Err(de::Error::custom(\"variant index out of range\")),"

theorem newline_notMem_codecTemplateLines : ∀ l ∈ codecTemplateLines, '\n' ∉ l.toList := by
  simp only [codecTemplateLines, List.forall_mem_cons]
  repeat' apply And.intro
  all_goals first
    | (rw [String.toList_ofList]; decide)
    | (rw [String.toList_append, String.toList_ofList, String.toList_ofList]; decide)
    | exact List.forall_mem_nil _

/-- A line that is steady and begins otherwise than the one that opens the arms. -/
def isBefore (line : List Char) : Bool :=
  isSteady line && line.take leadLength != armsOpening.toList.take leadLength

theorem isBefore_take_codecTemplateLines :
    ∀ l ∈ codecTemplateLines.take 54, isBefore (l.toList.map braceOf) = true := by
  have hmarker : markerMark.toList = ['_', '_', 'B', 'A', 'S', 'E', '_', '_'] := rfl
  have htable : tableMark.toList = ['_', '_', 'T', 'A', 'B', 'L', 'E', '_', '_'] := rfl
  have hopening : armsOpening.toList.take leadLength = List.replicate 16 ' ' ++ ['m'] := rfl
  simp only [isBefore, isSteady, hmarker, htable, hopening]
  simp only [codecTemplateLines, List.take_succ_cons, List.take_zero, List.forall_mem_cons]
  repeat' apply And.intro
  all_goals first
    | (rw [String.toList_ofList]; decide)
    | (rw [String.toList_append, String.toList_ofList, String.toList_ofList]; decide)
    | exact List.forall_mem_nil _

set_option maxRecDepth 2000 in
/-- The arms stand behind the line that opens them, and every line before is steady. -/
theorem exists_codecTemplateLines : ∃ before behind : List String,
    codecTemplateLines =
      before ++ "                match index ⟨" :: (armsMark ++ armsEnding) :: behind ∧
    ∀ l ∈ before, isBefore (l.toList.map braceOf) = true := by
  refine ⟨codecTemplateLines.take 54, codecTemplateLines.drop 56, ?_,
    isBefore_take_codecTemplateLines⟩
  have hline : armsMark ++ armsEnding =
      "__ARMS__                    _ => Err(de::Error::custom(\"variant index out of range\"))," :=
    rfl
  rw [hline]
  rfl

theorem newline_notMem_braced {l : String} (h : '\n' ∉ l.toList) : '\n' ∉ (braced l).toList := by
  rw [braced, String.toList_ofList]
  intro hmem
  obtain ⟨c, hc, heq⟩ := List.mem_map.mp hmem
  rw [braceOf] at heq
  split_ifs at heq
  · exact absurd heq (by decide)
  · exact absurd heq (by decide)
  · exact h (heq ▸ hc)

/-- The fixed code is filled line by line. -/
theorem fill_codecTemplate {marker table : String} (hmarker : '\n' ∉ marker.toList)
    (htable : '\n' ∉ table.toList) (arms : String) :
    fill armsMark arms (fill tableMark table (fill markerMark marker codecTemplate)) =
      lines ((codecTemplateLines.map braced).map (filledLine marker table arms)) := by
  have hfree : ∀ l ∈ codecTemplateLines.map braced, '\n' ∉ l.toList :=
    List.forall_mem_map.mpr fun l hl =>
      newline_notMem_braced (newline_notMem_codecTemplateLines l hl)
  have hmarked : ∀ l ∈ (codecTemplateLines.map braced).map (fill markerMark marker),
      '\n' ∉ l.toList :=
    List.forall_mem_map.mpr fun l hl => newline_notMem_fill hmarker (hfree l hl)
  have htabled : ∀ l ∈ ((codecTemplateLines.map braced).map (fill markerMark marker)).map
      (fill tableMark table), '\n' ∉ l.toList :=
    List.forall_mem_map.mpr fun l hl => newline_notMem_fill htable (hmarked l hl)
  rw [codecTemplate, codeLines, fill_lines (by decide) (by decide) marker hfree,
    fill_lines (by decide) (by decide) table hmarked,
    fill_lines (by decide) (by decide) arms htabled]
  simp only [List.map_map]
  rfl

/-- The line that opens the arms has no mark. -/
theorem filledLine_armsOpening (marker table arms : String) :
    filledLine marker table arms (braced "                match index ⟨") = armsOpening := by
  have hbraced : braced "                match index ⟨" = armsOpening := rfl
  have hplain : Text.hasMark armsOpening.toList = false := by decide
  obtain ⟨hm, ht, ha⟩ := isMark_marks
  rw [filledLine, hbraced, fill_of_not_hasMark hm hplain, fill_of_not_hasMark ht hplain,
    fill_of_not_hasMark ha hplain]

/-- What follows the arms holds no mark and no brace, stands in a line, and begins otherwise than
an arm. -/
theorem plain_armsEnding :
    Text.occurs markerMark.toList (armsMark ++ armsEnding).toList = false ∧
      Text.occurs tableMark.toList (armsMark ++ armsEnding).toList = false ∧
      (armsMark ++ armsEnding).toList.all (fun c => braceOf c == c) = true ∧
      Text.hasMark armsEnding.toList = false ∧ '\n' ∉ armsEnding.toList := by
  -- The characters are spelled out first: decoding them one by one is what takes the time.
  rw [String.toList_append, armsMark, armsEnding, String.toList_ofList, String.toList_ofList]
  decide

theorem filledLine_armsEnding (marker table arms : String) :
    filledLine marker table arms (braced (armsMark ++ armsEnding)) = arms ++ armsEnding := by
  obtain ⟨hmarker, htable, hbraces, hplain, -⟩ := plain_armsEnding
  have hbraced : braced (armsMark ++ armsEnding) = armsMark ++ armsEnding := by
    rw [braced, List.map_congr_left fun c hc => beq_iff_eq.mp (List.all_eq_true.mp hbraces c hc),
      List.map_id', String.ofList_toList]
  have hne : armsMark.toList ≠ [] := by decide
  rw [filledLine, hbraced, fill_of_not_occurs hmarker, fill_of_not_occurs htable]
  have hrest : Text.replaceAll armsMark.toList arms.toList armsEnding.toList =
      armsEnding.toList := by
    have hfill := congrArg String.toList (fill_of_not_hasMark isMark_marks.2.2 hplain arms)
    rwa [fill, String.toList_ofList] at hfill
  apply String.toList_injective
  rw [fill, String.toList_ofList, String.toList_append, Text.replaceAll_pattern_append hne,
    String.toList_append, hrest]

/-- The fixed code with its marks filled: lines of which none opens the arms, the one that does,
the arms, and the line that follows them. -/
theorem exists_filled_codecTemplate {marker table : String}
    (hmarker : '\n' ∉ marker.toList) (htable : '\n' ∉ table.toList)
    (hmarkerMark : Text.hasMark marker.toList = false)
    (htableMark : Text.hasMark table.toList = false) (arms : List String) :
    ∃ before behind : List String,
      fill armsMark (lines arms) (fill tableMark table (fill markerMark marker codecTemplate)) =
        lines (before ++ armsOpening :: (arms ++ armsEnding :: behind)) ∧
      ∀ l ∈ before, '\n' ∉ l.toList ∧ l ≠ armsOpening := by
  obtain ⟨before, behind, heq, hbefore⟩ := exists_codecTemplateLines
  have hfree := newline_notMem_codecTemplateLines
  rw [heq] at hfree
  refine ⟨(before.map braced).map (filledLine marker table (lines arms)),
    (behind.map braced).map (filledLine marker table (lines arms)), ?_, ?_⟩
  · rw [fill_codecTemplate hmarker htable, heq]
    simp only [List.map_append, List.map_cons, filledLine_armsOpening, filledLine_armsEnding,
      lines_append, lines_cons, String.append_assoc]
  · rw [List.map_map, List.forall_mem_map]
    intro l hl
    have hline := hbefore l hl
    have hlfree := newline_notMem_braced (hfree l (List.mem_append_left _ hl))
    rw [isBefore, Bool.and_eq_true, bne_iff_ne] at hline
    obtain ⟨hsteady, hlead⟩ := hline
    have hbraced : l.toList.map braceOf = (braced l).toList := by
      rw [braced, String.toList_ofList]
    rw [hbraced] at hsteady hlead
    obtain ⟨hfilled, htake⟩ := filledLine_of_isSteady hmarkerMark htableMark hsteady (lines arms)
    constructor
    · rw [Function.comp_apply, hfilled]
      exact newline_notMem_fill htable (newline_notMem_fill hmarker hlfree)
    · intro hopening
      rw [← htake] at hlead
      exact hlead (congrArg (fun s => s.toList.take leadLength) hopening)

end ApiForge.Emit
