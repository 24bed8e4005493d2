import ApiForge.Draft.Basic

/-!
Records: tables whose members are known beforehand. Members that are not known are passed over, and
a known one stands at most once. A list may stand for a record where the format allows it: its
items are the members in their order, and only members with a default may be missing at the end.
-/

namespace ApiForge

/-- The members of a record. -/
structure Layout where
  names : List String
  /-- How many items a list must have to stand for the record. -/
  needed : Nat

namespace Draft

/-- Reads the entries of a record. `seen` are the names of the members read before. -/
def readMembers {σ : Type} (names : List String) (set : σ → String → Draft → Except Fault σ)
    (s : σ) (seen : List String) : List (Draft × Draft) → Except Fault σ
  | [] => .ok s
  | (k, v) :: rest => do
    let key ← k.text
    if names.contains key then
      if seen.contains key then .error .misshapen
      else readMembers names set (← set s key v) (key :: seen) rest
    else do
      v.skip
      readMembers names set s seen rest

/-- Reads the items that stand for the members of a record. -/
def readPositions {σ : Type} (surplus : Fault) (set : σ → String → Draft → Except Fault σ)
    (needed : Nat) (s : σ) : List String → List Draft → Except Fault σ
  | _, [] => if needed = 0 then .ok s else .error .misshapen
  | [], broken f :: _ => .error f
  | [], _ :: _ => .error surplus
  | name :: names, d :: rest => do
    readPositions surplus set (needed - 1) (← set s name d) names rest

/-- Reads a record, member by member. -/
def record {σ : Type} (layout : Layout) (start : σ) (set : σ → String → Draft → Except Fault σ)
    (d : Draft) : Except Fault σ :=
  match d with
  | list (some surplus) items => readPositions surplus set layout.needed start layout.names items
  | sealed f (list (some _) _) => .error f
  | _ => do readMembers layout.names set start [] (← d.entries)

end Draft

end ApiForge
