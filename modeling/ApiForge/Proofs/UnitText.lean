import ApiForge.Proofs.FieldLine
import ApiForge.Proofs.Pieces

/-!
Units that are written out. The reader of tokens is not told how often it may read, so a fixed text
is read by one that is; and a text is put together of the characters of its lines, which are at hand
when the lines are literals. Main statement: lines that are written out are a unit if they read as
one, and none if they do not (`Emit.Spelled.isUnit_lines`).
-/

namespace ApiForge

namespace Code

/-- The tokens of a text, read in less than `n` steps. -/
def tokensWithin : Nat → List Char → Option (List Token)
  | 0, _ => none
  | _ + 1, [] => some []
  | n + 1, c :: rest =>
    match lexeme c rest with
    | none => none
    | some (found, length) => (tokensWithin n (rest.drop length)).map (found ++ ·)

theorem tokens_of_tokensWithin {n : Nat} {s : List Char} {ts : List Token}
    (h : tokensWithin n s = some ts) : tokens s = some ts := by
  induction n generalizing s ts with
  | zero => cases h
  | succ n ih =>
    cases s with
    | nil => rw [tokens, ← h, tokensWithin]
    | cons c rest =>
      rw [tokensWithin] at h
      rw [tokens]
      cases hlexeme : lexeme c rest with
      | none =>
        rw [hlexeme] at h
        cases h
      | some read =>
        rw [hlexeme] at h
        obtain ⟨later, hlater, rfl⟩ := Option.map_eq_some_iff.mp h
        exact Option.map_eq_some_iff.mpr ⟨later, ih hlater, rfl⟩

theorem isUnit_of_tokensWithin {code : String} {n : Nat} {b : Bool}
    (h : (tokensWithin n code.toList).map readsUnit = some b) : isUnit code = b := by
  obtain ⟨ts, hts, rfl⟩ := Option.map_eq_some_iff.mp h
  rw [isUnit_eq, tokens_of_tokensWithin hts, Option.any_some]

end Code

namespace Emit

/-- The characters of some texts. -/
inductive Spelled : List String → List (List Char) → Prop
  | nil : Spelled [] []
  | cons {text : List Char} {ls : List String} {texts : List (List Char)}
      (rest : Spelled ls texts) :
      Spelled (String.ofList text :: ls) (text :: texts)

namespace Spelled

variable {ls ms : List String} {texts more : List (List Char)}

theorem toList_lines (h : Spelled ls texts) :
    (lines ls).toList = texts.flatMap (· ++ ['\n']) := by
  have hbreak : "\n".toList = ['\n'] := String.toList_ofList
  induction h with
  | nil => rfl
  | cons _ ih =>
    rw [lines_cons, String.toList_append, String.toList_append, String.toList_ofList, hbreak, ih,
      List.flatMap_cons]

theorem append (h : Spelled ls texts) (hmore : Spelled ms more) :
    Spelled (ls ++ ms) (texts ++ more) := by
  induction h with
  | nil => exact hmore
  | cons _ ih => exact .cons ih

theorem map_braced (h : Spelled ls texts) :
    Spelled (ls.map braced) (texts.map (·.map braceOf)) := by
  induction h with
  | nil => exact .nil
  | cons _ ih =>
    simp only [List.map_cons, braced, String.toList_ofList]
    exact .cons ih

theorem isUnit_lines {n : Nat} {b : Bool} (h : Spelled ls texts)
    (hread : (Code.tokensWithin n (texts.flatMap (· ++ ['\n']))).map Code.readsUnit = some b) :
    Code.isUnit (lines ls) = b := by
  rw [← h.toList_lines] at hread
  exact Code.isUnit_of_tokensWithin hread

end Spelled

end Emit

end ApiForge
