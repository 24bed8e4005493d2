import ApiForge.Yaml.Cursor

/-!
Folding the lines of a scalar. Blanks inside a line are kept, a single break becomes a space, and
of several breaks the first is dropped; blanks around a break vanish.
-/

namespace ApiForge.Yaml

/-- A scalar while it is read: its text so far, last character first, and the blanks and breaks
met since. -/
structure Folding where
  text : List Char := []
  /-- The blanks since the last character, last one first, on the same line. -/
  blanks : List Char := []
  /-- The first break since the last character. -/
  firstBreak : List Char := []
  /-- The further breaks, last one first. -/
  moreBreaks : List Char := []
  /-- Whether a line began since the last character. -/
  inNewLine : Bool := false

namespace Folding

def addBlank (f : Folding) (c : Char) : Folding :=
  if f.inNewLine then f else { f with blanks := c :: f.blanks }

def addBreak (f : Folding) (c : Char) : Folding :=
  if f.inNewLine then { f with moreBreaks := breakChar c :: f.moreBreaks }
  else { f with blanks := [], firstBreak := [breakChar c], inNewLine := true }

/-- Begins a new line without a break. -/
def beginLine (f : Folding) : Folding := { f with inNewLine := true }

/-- Puts the blanks and breaks met into the text. -/
def join (f : Folding) : Folding :=
  if f.inNewLine then
    let gap :=
      if f.firstBreak == ['\n'] then
        if f.moreBreaks.isEmpty then [' '] else f.moreBreaks
      else f.moreBreaks ++ f.firstBreak
    { text := gap ++ f.text }
  else { text := f.blanks ++ f.text }

/-- Adds a character of the text. -/
def add (f : Folding) (c : Char) : Folding :=
  let f := f.join
  { f with text := c :: f.text }

def result (f : Folding) : String := String.ofList f.text.reverse

end Folding

end ApiForge.Yaml
