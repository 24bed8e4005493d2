import ApiForge.Yaml.Cursor

/-!
Block scalars: lines of text under a header, literal or folded. The header may give the indentation
of the lines and say what becomes of the breaks at the end.
-/

namespace ApiForge.Yaml

/-- What becomes of the breaks at the end of a block scalar. -/
inductive Chomping where
  | strip | clip | keep
  deriving DecidableEq, Repr

/-- The header of a block scalar. -/
structure BlockHeader where
  chomping : Chomping := .clip
  /-- How much deeper than its parent the text is indented, if the header says so. -/
  increment : Option Nat := none

/-- The chomping that a character of a header stands for. -/
def chompingOf : Char → Option Chomping
  | '+' => some .keep
  | '-' => some .strip
  | _ => none

/-- Reads the part of a header after its indicator: a chomping mark and a digit in any order. -/
def readHeader (s : List Char) : Option (BlockHeader × Nat) :=
  match s with
  | [] => some ({}, 0)
  | c :: rest =>
    match chompingOf c with
    | some chomping =>
      match rest with
      | d :: _ =>
        if d == '0' then none
        else if d.isDigit then some (⟨chomping, some (d.toNat - 48)⟩, 2)
        else some (⟨chomping, none⟩, 1)
      | [] => some (⟨chomping, none⟩, 1)
    | none =>
      if c == '0' then none
      else if c.isDigit then
        let increment := some (c.toNat - 48)
        match rest with
        | d :: _ =>
          match chompingOf d with
          | some chomping => some (⟨chomping, increment⟩, 2)
          | none => some (⟨.clip, increment⟩, 1)
        | [] => some (⟨.clip, increment⟩, 1)
      else some ({}, 0)

/-- What lies between two lines of text: the breaks, last one first, the place of the next line
of text, and the deepest column met. -/
structure LineGap where
  breaks : List Char
  after : Cursor
  deepest : Nat

/-- Passes over indentation and empty lines. `indent` is the column of the text, if it is known. A
tab in the indentation is a fault. -/
def readGap (indent : Option Nat) (breaks : List Char) (deepest : Nat) (p : Cursor) :
    List Char → Option LineGap
  | [] => some ⟨breaks, p, max deepest p.column⟩
  | '\r' :: '\n' :: rest =>
    readGap indent ('\n' :: breaks) (max deepest p.column) p.nextLine rest
  | c :: rest =>
    let inIndent := match indent with
      | none => true
      | some n => p.column < n
    if inIndent && c == ' ' then readGap indent breaks deepest (p.advance 1) rest
    else if inIndent && c == '\t' then none
    else if isBreak c then
      readGap indent (breakChar c :: breaks) (max deepest p.column) p.nextLine rest
    else some ⟨breaks, p, max deepest p.column⟩

/-- Whether a place begins with a blank. -/
def Cursor.startsWithBlank (p : Cursor) : Bool :=
  match p.rest with
  | c :: _ => isBlank c
  | [] => false

/-- Reads the lines of text of a block scalar. `text` and `breaks` are held last character first,
`lineBreak` is the break of the line before, and `afterBlank` says that this line began with a
blank. No text has more lines than characters. -/
def readLines (literal : Bool) (indent : Nat) :
    (fuel : Nat) → (text lineBreak breaks : List Char) → (afterBlank : Bool) → Cursor →
      Option ((List Char × List Char × List Char) × Cursor)
  | 0, text, lineBreak, breaks, _, p => some ((text, lineBreak, breaks), p)
  | fuel + 1, text, lineBreak, breaks, afterBlank, p =>
    if p.column ≠ indent ∨ p.rest.isEmpty then some ((text, lineBreak, breaks), p)
    else
      let blank := p.startsWithBlank
      let gap :=
        if !literal && lineBreak == ['\n'] && !afterBlank && !blank then
          if breaks.isEmpty then [' '] else breaks
        else breaks ++ lineBreak
      let line := p.rest.takeWhile (!isBreak ·)
      let (lineBreak, next) := (p.advance line.length).takeBreak
      match readGap (some indent) [] 0 next next.rest with
      | none => none
      | some g =>
        readLines literal indent fuel (line.reverse ++ gap ++ text) lineBreak g.breaks blank g.after

/-- Reads a block scalar from its indicator, inside a collection at column `parent`. -/
def readBlock (literal : Bool) (parent : Int) (p : Cursor) : Option (String × Cursor) := do
  let p := p.advance 1
  let (header, length) ← readHeader p.rest
  let p := (p.advance length).advanceWhile isBlank
  let p := match p.rest with
    | '#' :: _ => p.advanceWhile (!isBreak ·)
    | _ => p
  if !(p.rest.head?.map isBreak).getD true then none
  else
    let p := p.nextLine
    let known := header.increment.map fun n => if 0 ≤ parent then parent.toNat + n else n
    let gap ← readGap known [] 0 p p.rest
    let indent := known.getD (max gap.deepest (max (parent + 1).toNat 1))
    let ((text, lineBreak, breaks), after) ←
      readLines literal indent gap.after.rest.length [] [] gap.breaks false gap.after
    let tail := match header.chomping with
      | .strip => []
      | .clip => lineBreak
      | .keep => breaks ++ lineBreak
    return (String.ofList (tail ++ text).reverse, after)

end ApiForge.Yaml
