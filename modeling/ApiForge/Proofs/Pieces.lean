import ApiForge.Emit.Line
import ApiForge.Text.Segment
import Mathlib.Tactic.Common

/-!
Texts that are cut at separators, and generated code cut at its line feeds. A text that goes on
behind another continues the last piece of it. Main statements: the pieces of two texts in a row
(`exists_pieces_append`), the pieces of lines (`Emit.pieces_lines`) and the lines that they are read
back as (`Emit.textLines_lines`).
-/

namespace ApiForge

namespace Text

theorem pieces_ne_nil (separates : Char → Bool) (s : List Char) : pieces separates s ≠ [] := by
  cases s with
  | nil => exact List.cons_ne_nil [] []
  | cons c s =>
    rw [pieces]
    split
    · exact List.cons_ne_nil [] _
    · split
      · exact List.cons_ne_nil [c] []
      · exact List.cons_ne_nil _ _

theorem pieces_append_cons {separates : Char → Bool} {d : Char} (hd : separates d = true)
    (s t : List Char) :
    pieces separates (s ++ d :: t) = pieces separates s ++ pieces separates t := by
  induction s with
  | nil => simp [pieces, hd]
  | cons c s ih =>
    rw [List.cons_append, pieces, pieces, ih]
    split
    · rfl
    · obtain ⟨first, more, heq⟩ := List.exists_cons_of_ne_nil (pieces_ne_nil separates s)
      rw [heq]
      rfl

theorem pieces_of_forall_not {separates : Char → Bool} {s : List Char}
    (h : ∀ c ∈ s, separates c = false) : pieces separates s = [s] := by
  induction s with
  | nil => rfl
  | cons c s ih =>
    rw [pieces, ih fun d hd => h d (List.mem_cons_of_mem c hd), h c List.mem_cons_self]
    rfl

/-- The last piece of a text goes on with the first one of what follows. -/
theorem exists_pieces_append (separates : Char → Bool) (s : List Char) :
    ∃ front last, pieces separates s = front ++ [last] ∧
      ∀ t first rest, pieces separates t = first :: rest →
        pieces separates (s ++ t) = front ++ (last ++ first) :: rest := by
  induction s with
  | nil => exact ⟨[], [], rfl, fun t first rest ht => ht⟩
  | cons c s ih =>
    obtain ⟨front, last, heq, happend⟩ := ih
    by_cases hc : separates c = true
    · refine ⟨[] :: front, last, ?_, fun t first rest ht => ?_⟩
      · rw [pieces, if_pos hc, heq, List.cons_append]
      · rw [List.cons_append, pieces, if_pos hc, happend t first rest ht, List.cons_append]
    · cases front with
      | nil =>
        refine ⟨[], c :: last, ?_, fun t first rest ht => ?_⟩
        · rw [pieces, if_neg hc, heq]
          rfl
        · rw [List.cons_append, pieces, if_neg hc, happend t first rest ht]
          rfl
      | cons head front =>
        refine ⟨(c :: head) :: front, last, ?_, fun t first rest ht => ?_⟩
        · rw [pieces, if_neg hc, heq]
          rfl
        · rw [List.cons_append, pieces, if_neg hc, happend t first rest ht]
          rfl

/-- What is put before a text goes to its first piece. -/
theorem pieces_append_of_forall_not {separates : Char → Bool} {s : List Char}
    (h : ∀ c ∈ s, separates c = false) {t first : List Char} {rest : List (List Char)}
    (ht : pieces separates t = first :: rest) :
    pieces separates (s ++ t) = (s ++ first) :: rest := by
  obtain ⟨front, last, heq, happend⟩ := exists_pieces_append separates s
  rw [pieces_of_forall_not h] at heq
  obtain ⟨rfl, rfl⟩ : front = [] ∧ last = s := by
    cases front with
    | nil => exact ⟨rfl, (List.singleton_inj.mp heq).symm⟩
    | cons head front => simp at heq
  exact happend t first rest ht

end Text

namespace Emit

theorem pieces_of_notMem {s : List Char} (h : '\n' ∉ s) : Text.pieces (· == '\n') s = [s] := by
  apply Text.pieces_of_forall_not
  intro c hc
  rw [beq_eq_false_iff_ne]
  rintro rfl
  exact h hc

theorem pieces_line_append {l : List Char} (h : '\n' ∉ l) (rest : List Char) :
    Text.pieces (· == '\n') (l ++ '\n' :: rest) = l :: Text.pieces (· == '\n') rest := by
  have hcut : Text.pieces (· == '\n') (l ++ '\n' :: rest) =
      Text.pieces (· == '\n') l ++ Text.pieces (· == '\n') rest := by
    apply Text.pieces_append_cons
    rfl
  rw [hcut, pieces_of_notMem h, List.singleton_append]

theorem lines_nil : lines [] = "" := rfl

theorem lines_cons (l : String) (ls : List String) : lines (l :: ls) = l ++ "\n" ++ lines ls := by
  simp [lines]

theorem lines_append (ls ms : List String) : lines (ls ++ ms) = lines ls ++ lines ms := by
  simp [lines]

theorem joined_cons_cons (separator piece next : String) (pieces : List String) :
    joined separator (piece :: next :: pieces) =
      piece ++ separator ++ joined separator (next :: pieces) := by
  apply String.toList_injective
  simp [joined]

/-- The pieces of lines are those of each line. -/
theorem pieces_lines (ls : List String) (rest : List Char) :
    Text.pieces (· == '\n') ((lines ls).toList ++ rest) =
      ls.flatMap (fun l => Text.pieces (· == '\n') l.toList) ++ Text.pieces (· == '\n') rest := by
  induction ls with
  | nil => simp [lines]
  | cons l ls ih =>
    have hfirst : (lines (l :: ls)).toList ++ rest =
        l.toList ++ '\n' :: ((lines ls).toList ++ rest) := by
      simp [lines_cons]
    have hcut : Text.pieces (· == '\n') (l.toList ++ '\n' :: ((lines ls).toList ++ rest)) =
        Text.pieces (· == '\n') l.toList ++
          Text.pieces (· == '\n') ((lines ls).toList ++ rest) := by
      apply Text.pieces_append_cons
      rfl
    rw [hfirst, hcut, ih, List.flatMap_cons, List.append_assoc]

theorem flatMap_pieces_of_notMem {ls : List String} (h : ∀ l ∈ ls, '\n' ∉ l.toList) :
    ls.flatMap (fun l => Text.pieces (· == '\n') l.toList) = ls.map String.toList := by
  induction ls with
  | nil => rfl
  | cons l ls ih =>
    obtain ⟨hl, hls⟩ := List.forall_mem_cons.mp h
    rw [List.flatMap_cons, pieces_of_notMem hl, ih hls]
    rfl

theorem pieces_lines_append {ls : List String} (h : ∀ l ∈ ls, '\n' ∉ l.toList) (rest : List Char) :
    Text.pieces (· == '\n') ((lines ls).toList ++ rest) =
      ls.map String.toList ++ Text.pieces (· == '\n') rest := by
  rw [pieces_lines, flatMap_pieces_of_notMem h]

/-- The lines of a text. What follows the last line feed is a line unless it is empty. -/
def textLines (s : String) : List (List Char) :=
  let pieces := Text.pieces (· == '\n') s.toList
  if pieces.getLast? = some [] then pieces.dropLast else pieces

theorem textLines_lines (ls : List String) :
    textLines (lines ls) = ls.flatMap fun l => Text.pieces (· == '\n') l.toList := by
  have hpieces := pieces_lines ls []
  rw [List.append_nil] at hpieces
  rw [textLines, hpieces]
  simp [Text.pieces]

theorem textLines_lines_append {ls : List String} (h : ∀ l ∈ ls, '\n' ∉ l.toList)
    (rest : List String) :
    textLines (lines (ls ++ rest)) = ls.map String.toList ++ textLines (lines rest) := by
  rw [textLines_lines, textLines_lines, List.flatMap_append, flatMap_pieces_of_notMem h]

end Emit

end ApiForge
