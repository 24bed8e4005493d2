import ApiForge.Proofs.Arguments

/-!
The format template of a path, as a formatter reads it. Its holes are the placeholders that have an
argument, and all else of it is the path itself with its braces doubled, whatever braces the path
holds. Main statement: the template is well-formed, its holes are as many as the arguments that
fill it, with the wire names of these in braces in them it is the path again, and what fills the
template of a method must be given (`urlTemplate_writes`).
-/

namespace ApiForge.Client

open Resolving

/-- A part of a format template as a formatter reads it. -/
inductive TemplatePart where
  | char (c : Char)
  /-- A place for a value. -/
  | hole
  deriving DecidableEq, Repr

/-- The parts of a template: two equal braces are one brace, an opening and a closing one are a
hole, and no other brace is allowed. -/
def templateParts? : List Char → Option (List TemplatePart)
  | [] => some []
  | '\x7b' :: '\x7b' :: rest => (templateParts? rest).map (.char '\x7b' :: ·)
  | '\x7b' :: '\x7d' :: rest => (templateParts? rest).map (.hole :: ·)
  | '\x7d' :: '\x7d' :: rest => (templateParts? rest).map (.char '\x7d' :: ·)
  | c :: rest =>
    if c = '\x7b' ∨ c = '\x7d' then none else (templateParts? rest).map (.char c :: ·)

/-- The text of a template with values in its holes, one after the other. -/
def fillParts : List TemplatePart → List (List Char) → List Char
  | [], _ => []
  | .char c :: rest, values => c :: fillParts rest values
  | .hole :: rest, [] => fillParts rest []
  | .hole :: rest, value :: values => value ++ fillParts rest values

/-- A template is well-formed, has a hole for each of some values, and with these in its holes it
is a text. -/
def Writes (template : String) (values : List (List Char)) (text : String) : Prop :=
  ∃ parts, templateParts? template.toList = some parts ∧
    parts.count .hole = values.length ∧ fillParts parts values = text.toList

/-! A template is read piece by piece. -/

theorem templateParts?_escapeBrace (c : Char) (rest : List Char) :
    templateParts? (escapeBrace c ++ rest) = (templateParts? rest).map (.char c :: ·) := by
  by_cases hopen : c = '\x7b'
  · subst hopen
    rfl
  · by_cases hclose : c = '\x7d'
    · subst hclose
      rfl
    · simp [escapeBrace, hopen, hclose, templateParts?]

theorem templateParts?_escaped (s rest : List Char) :
    templateParts? (s.flatMap escapeBrace ++ rest) =
      (templateParts? rest).map (s.map .char ++ ·) := by
  induction s with
  | nil => simp
  | cons c s ih =>
    rw [List.flatMap_cons, List.append_assoc, templateParts?_escapeBrace, ih, Option.map_map]
    rfl

theorem fillParts_chars (s : List Char) (parts : List TemplatePart) (values : List (List Char)) :
    fillParts (s.map .char ++ parts) values = s ++ fillParts parts values := by
  induction s with
  | nil => rfl
  | cons c s ih => exact congrArg (c :: ·) ih

theorem count_hole_chars (s : List Char) : (s.map TemplatePart.char).count .hole = 0 := by
  rw [List.count_eq_zero]
  intro h
  obtain ⟨c, -, hc⟩ := List.mem_map.mp h
  cases hc

/-- What stands for an argument in a path. -/
def Argument.placeholder (a : Argument) : List Char := '\x7b' :: a.wire.toList ++ ['\x7d']

namespace PathPiece

variable {arguments : List Argument}

/-- A piece as it stands in the path. -/
def text : PathPiece → List Char
  | char c => [c]
  | slot name => '\x7b' :: name ++ ['\x7d']

/-- The argument that fills a placeholder. -/
def filler? (arguments : List Argument) : PathPiece → Option Argument
  | char _ => none
  | slot name => arguments.find? fun a => a.place = .path && a.wire == String.ofList name

/-- The parts of the template of a piece. -/
def parts (arguments : List Argument) (piece : PathPiece) : List TemplatePart :=
  match piece.filler? arguments with
  | some _ => [.hole]
  | none => piece.text.map .char

theorem argument?_eq (piece : PathPiece) :
    piece.argument? (pathArgument? arguments) = (piece.filler? arguments).map (·.ident) := by
  cases piece <;> rfl

theorem placeholder_of_filler? {piece : PathPiece} {a : Argument}
    (h : piece.filler? arguments = some a) : a.placeholder = piece.text := by
  cases piece with
  | char c => cases h
  | slot name =>
    have ha := List.find?_some h
    simp only [Bool.and_eq_true, beq_iff_eq] at ha
    rw [Argument.placeholder, ha.2, String.toList_ofList]
    rfl

theorem filler?_spec {piece : PathPiece} {a : Argument} (h : piece.filler? arguments = some a) :
    arguments.find? (fun b => b.place = .path && b.wire == a.wire) = some a := by
  cases piece with
  | char c => cases h
  | slot name =>
    have ha := List.find?_some h
    simp only [Bool.and_eq_true, beq_iff_eq] at ha
    rw [ha.2]
    exact h

theorem templateParts?_template (piece : PathPiece) (rest : List Char) :
    templateParts? (piece.template (pathArgument? arguments) ++ rest) =
      (templateParts? rest).map (piece.parts arguments ++ ·) := by
  cases piece with
  | char c => exact templateParts?_escapeBrace c rest
  | slot name =>
    rw [template, parts, filler?, pathArgument?, Option.isSome_map]
    cases arguments.find? fun a => a.place = .path && a.wire == String.ofList name with
    | some a => rfl
    | none => exact templateParts?_escaped _ rest

theorem templateParts?_flatMap (pieces : List PathPiece) :
    templateParts? (pieces.flatMap (·.template (pathArgument? arguments))) =
      some (pieces.flatMap (·.parts arguments)) := by
  induction pieces with
  | nil => rfl
  | cons piece pieces ih =>
    rw [List.flatMap_cons, templateParts?_template, ih]
    rfl

theorem count_hole_flatMap (pieces : List PathPiece) :
    (pieces.flatMap (·.parts arguments)).count .hole =
      (pieces.filterMap (·.filler? arguments)).length := by
  induction pieces with
  | nil => rfl
  | cons piece pieces ih =>
    rw [List.flatMap_cons, List.count_append, ih, parts]
    cases h : piece.filler? arguments with
    | some a =>
      rw [List.filterMap_cons_some h, List.length_cons, Nat.add_comm]
      rfl
    | none => rw [List.filterMap_cons_none h, count_hole_chars, Nat.zero_add]

theorem fillParts_flatMap (pieces : List PathPiece) :
    fillParts (pieces.flatMap (·.parts arguments))
        ((pieces.filterMap (·.filler? arguments)).map (·.placeholder)) =
      pieces.flatMap text := by
  induction pieces with
  | nil => rfl
  | cons piece pieces ih =>
    rw [List.flatMap_cons, List.flatMap_cons, parts]
    cases h : piece.filler? arguments with
    | some a =>
      rw [List.filterMap_cons_some h, List.map_cons, placeholder_of_filler? h, ← ih]
      rfl
    | none => rw [List.filterMap_cons_none h, fillParts_chars, ih]

end PathPiece

theorem slotName?_eq {s name after : List Char} (h : slotName? s = some (name, after)) :
    name ++ '\x7d' :: after = s := by
  unfold slotName? at h
  split at h
  · next c _ d _ hname hafter =>
    obtain ⟨rfl, rfl⟩ := Prod.mk.injEq .. ▸ Option.some.inj h
    have hstop := List.head?_dropWhile_not (· != '\x7d') s
    rw [hafter] at hstop
    have hclose : d = '\x7d' := by simpa using hstop
    rw [← hclose, ← hname, ← hafter]
    exact List.takeWhile_append_dropWhile
  · cases h

/-- The pieces of a path make it up. -/
theorem flatMap_text_pathPieces (s : List Char) : (pathPieces s).flatMap PathPiece.text = s := by
  induction s using pathPieces.induct with
  | case1 => rw [pathPieces, List.flatMap_nil]
  | case2 rest name after hslot ih =>
    have hpieces : pathPieces ('\x7b' :: rest) = .slot name :: pathPieces after := by
      rw [pathPieces, if_pos rfl]
      split
      · next heq =>
        obtain ⟨rfl, rfl⟩ := Prod.mk.inj (Option.some.inj (heq.symm.trans hslot))
        rfl
      · next heq => cases heq.symm.trans hslot
    rw [hpieces, List.flatMap_cons, ih, ← slotName?_eq hslot]
    simp [PathPiece.text]
  | case3 rest hslot ih =>
    have hpieces : pathPieces ('\x7b' :: rest) = .char '\x7b' :: pathPieces rest := by
      rw [pathPieces, if_pos rfl]
      split
      · next heq => cases heq.symm.trans hslot
      · rfl
    rw [hpieces, List.flatMap_cons, ih]
    rfl
  | case4 c rest hc ih =>
    rw [pathPieces, if_neg hc, List.flatMap_cons, ih]
    rfl

/-- The path arguments that fill the template of a path, in order. -/
def fillers (path : String) (arguments : List Argument) : List Argument :=
  (pathPieces path.toList).filterMap (·.filler? arguments)

theorem pathArguments_eq (path : String) (arguments : List Argument) :
    (urlTemplate path (pathArgument? arguments)).2 = (fillers path arguments).map (·.ident) := by
  rw [fillers, List.map_filterMap]
  exact congrArg (fun f => (pathPieces path.toList).filterMap f) (funext PathPiece.argument?_eq)

theorem writes_urlTemplate (path : String) (arguments : List Argument) :
    Writes (urlTemplate path (pathArgument? arguments)).1
      ((fillers path arguments).map (·.placeholder)) path := by
  refine ⟨(pathPieces path.toList).flatMap (·.parts arguments), ?_, ?_, ?_⟩
  · rw [urlTemplate, String.toList_ofList]
    exact PathPiece.templateParts?_flatMap _
  · rw [List.length_map]
    exact PathPiece.count_hole_flatMap _
  · rw [fillers, PathPiece.fillParts_flatMap, flatMap_text_pathPieces]

theorem find?_of_mem_fillers {path : String} {arguments : List Argument} {a : Argument}
    (h : a ∈ fillers path arguments) :
    arguments.find? (fun b => b.place = .path && b.wire == a.wire) = some a := by
  obtain ⟨piece, -, hpiece⟩ := List.mem_filterMap.mp h
  exact PathPiece.filler?_spec hpiece

theorem urlTemplate_writes (path : String) (arguments : List Argument) (info : Info)
    (e : Endpoint) :
    (∃ slots : List Argument,
      (urlTemplate path (pathArgument? arguments)).2 = slots.map (·.ident) ∧
        (∀ a ∈ slots, arguments.find? (fun b => b.place = .path && b.wire == a.wire) = some a) ∧
        Writes (urlTemplate path (pathArgument? arguments)).1 (slots.map (·.placeholder)) path) ∧
      Returns (planMethod info e) fun r => ∀ m ∈ r,
        (m.urlTemplate, m.pathArguments) = urlTemplate e.path (pathArgument? m.arguments) ∧
          ∀ ident ∈ m.pathArguments, ∃ a ∈ m.arguments, a.ident = ident ∧ a.place = .path ∧
            a.required = true ∧ ∀ b ∈ m.arguments, b.ident = ident → b = a := by
  constructor
  · exact ⟨fillers path arguments, pathArguments_eq path arguments,
      fun a ha => find?_of_mem_fillers ha, writes_urlTemplate path arguments⟩
  · intro s r hr m hm
    obtain ⟨horderly, htemplate⟩ := returns_arguments info e s r hr m hm
    refine ⟨htemplate, fun ident hident => ?_⟩
    have hfill : m.pathArguments = (fillers e.path m.arguments).map (·.ident) := by
      rw [← pathArguments_eq, ← htemplate]
    rw [hfill] at hident
    obtain ⟨a, ha, rfl⟩ := List.mem_map.mp hident
    have hfound := find?_of_mem_fillers ha
    have hmem : a ∈ m.arguments := List.mem_of_find?_eq_some hfound
    have hplace : a.place = .path := by
      have hboth := List.find?_some hfound
      simp only [Bool.and_eq_true, decide_eq_true_eq] at hboth
      exact hboth.1
    refine ⟨a, hmem, rfl, hplace, horderly.required a hmem hplace, fun b hb hsame => ?_⟩
    exact horderly.eq_of_ident_eq hb hmem hsame

/-! A path with a placeholder that has an argument, one that has none, and braces that are no
placeholders. -/

def rawFiles : Endpoint where
  path := "/\x7d/\x7bid\x7d/\x7b\x7bname\x7d/\x7b\x7d/\x7b"
  item := {}
  verb := .get
  operation := {
    parameters := [{ name := "id", location := "path" }, { name := "name", location := "path" }]
    responses := [("200", {})] }

theorem rawFiles_writes :
    ∃ m found, (planMethod { title := "Test", version := "1.0" } rawFiles).outcome =
        .ok (some m, found) ∧
      m.pathArguments = ["id"] ∧
      Writes m.urlTemplate [['\x7b', 'i', 'd', '\x7d']] rawFiles.path ∧
      ∃ a ∈ m.arguments, a.ident = "id" ∧ a.required = true := by
  have hplanned : ((planMethod { title := "Test", version := "1.0" } rawFiles).outcome.toOption.bind
      (·.1)).map (fun m => (m.pathArguments, m.arguments.map fun a => (a.ident, a.wire))) =
        some (["id"], [("id", "id"), ("name", "name")]) := by
    decide +kernel
  obtain ⟨m, hm, hfacts⟩ := Option.map_eq_some_iff.mp hplanned
  obtain ⟨⟨r, found⟩, hoption, rfl⟩ := Option.bind_eq_some_iff.mp hm
  obtain ⟨hpath, harguments⟩ := Prod.mk.inj hfacts
  have houtcome : (planMethod { title := "Test", version := "1.0" } rawFiles).outcome =
      .ok (some m, found) := by
    cases ho : (planMethod { title := "Test", version := "1.0" } rawFiles).outcome with
    | error p =>
      rw [ho] at hoption
      cases hoption
    | ok r =>
      rw [ho] at hoption
      exact congrArg Except.ok (Option.some.inj hoption)
  obtain ⟨⟨slots, hslots, hfound, hwrites⟩, hreturns⟩ :=
    urlTemplate_writes rawFiles.path m.arguments { title := "Test", version := "1.0" } rawFiles
  obtain ⟨htemplate, hrequired⟩ := hreturns.of_outcome houtcome m rfl
  rw [← htemplate] at hslots hwrites
  rw [hpath] at hslots
  obtain ⟨a, rfl, hident⟩ := List.map_eq_singleton_iff.mp hslots.symm
  obtain ⟨b, hb, hid, -, hgiven, -⟩ := hrequired "id" (hpath ▸ List.mem_cons_self)
  refine ⟨m, found, houtcome, hpath, ?_, b, hb, hid, hgiven⟩
  have hwire : a.wire = "id" := by
    have hmem : (a.ident, a.wire) ∈ m.arguments.map fun a => (a.ident, a.wire) :=
      List.mem_map_of_mem (List.mem_of_find?_eq_some (hfound a List.mem_cons_self))
    rw [harguments, hident] at hmem
    simpa using hmem
  rwa [List.map_singleton, Argument.placeholder, hwire] at hwrites

end ApiForge.Client
