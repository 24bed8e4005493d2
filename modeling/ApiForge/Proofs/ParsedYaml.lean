import ApiForge.Proofs.ParsedValue
import ApiForge.Yaml.Tree

/-!
What a YAML text is as a draft. A node with an anchor is read once and put wherever an alias names
it, so what holds of the nodes that were read holds of the aliases too. Main statement: all values
in the draft of a text are proper (`Yaml.proper_root_read`).
-/

namespace ApiForge.Yaml

open Json

theorem rounded_decimalWord {s : List Char} {d : Double} (h : decimalWord s = some d) :
    d.Rounded := by
  -- However the sign and the exponent are written, digits and an exponent are rounded in the end.
  have hrounds : ∀ {negative : Bool} {exponent : Option Int} {digits : Option Nat} {places : Int},
      (exponent.bind fun e => digits.bind fun n => Double.ofDecimal negative n (e - places)) =
        some d → d.Rounded := by
    intro negative exponent digits places h
    obtain ⟨_, -, h⟩ := Option.bind_eq_some_iff.mp h
    obtain ⟨_, -, h⟩ := Option.bind_eq_some_iff.mp h
    exact Double.rounded_ofDecimal h
  unfold decimalWord at h
  dsimp only at h
  split at h <;> split at h
  all_goals
    split at h
    · cases h
    · split at h
      · exact hrounds h
      · split at h
        · split at h <;> exact hrounds h
        · cases h

theorem proper_realWord {s : String} {v : Json} (h : realWord s = some v) : v.Proper := by
  rw [realWord] at h
  split at h
  · rw [← Option.some.inj h]
    exact proper_null
  · obtain ⟨d, hd, rfl⟩ := Option.map_eq_some_iff.mp h
    exact proper_real (rounded_decimalWord hd)

theorem proper_plainValue {s : String} {v : Json} (h : plainValue s = .ok v) : v.Proper := by
  unfold plainValue at h
  split at h
  · cases h
    exact proper_null
  split at h
  · cases h
    exact proper_bool _
  split at h
  · split at h
    · cases h
      exact proper_int _
    · cases h
  split at h
  · cases h
    exact proper_str _
  split at h
  · next hreal =>
    cases h
    exact proper_realWord hreal
  · cases h
    exact proper_str _

theorem proper_taggedValue {tag s : String} {v : Json} (h : taggedValue tag s = .ok v) :
    v.Proper := by
  unfold taggedValue at h
  split_ifs at h
  · split at h
    · cases h
      exact proper_bool _
    · cases h
  · split at h
    · cases h
      exact proper_int _
    · cases h
  · split at h
    · next hreal =>
      cases h
      exact proper_realWord hreal
    · cases h
  · cases h
    exact proper_null
  · cases h
    exact proper_str _

theorem proper_scalarOf (tag : Option String) (style : Style) (s : String) :
    (Draft.scalar (scalarOf tag style s)).Proper := by
  intro v hv
  dsimp only [scalarOf] at hv
  split at hv
  · exact proper_taggedValue hv
  split at hv
  · exact proper_plainValue hv
  · cases hv
    exact proper_str _

theorem proper_emptyScalar : emptyScalar.Proper := proper_scalarOf _ _ _

theorem proper_collection {d : Draft} (h : d.Proper) (depth : Nat) (tag : Option String) :
    (collection depth tag d).Proper := by
  have hdepth : (if depth ≤ maxDepth then d else .sealed .malformed d).Proper := by
    split
    · exact h
    · trivial
  unfold collection
  dsimp only
  split
  · split
    · exact hdepth
    · exact hdepth
  · exact hdepth

namespace Builder

/-- The nodes that aliases may stand for are proper. -/
def Proper (b : Builder) : Prop := ∀ p ∈ b.nodes, ∀ d, p.2 = some d → d.Proper

variable {b : Builder}

theorem Proper.advance (h : b.Proper) : b.advance.Proper := h

theorem Proper.aliased (h : b.Proper) {name : String} {d : Draft} (hd : b.aliased name = some d) :
    d.Proper := by
  obtain ⟨node, hnode, rfl⟩ := Option.map_eq_some_iff.mp hd
  cases node with
  | none => trivial
  | some d => exact h _ (Entries.mem_of_get? hnode) d rfl

theorem Proper.beginNode (h : b.Proper) (anchor : Option String) : (b.beginNode anchor).Proper := by
  cases anchor with
  | none => exact h
  | some name => exact List.forall_mem_cons.mpr ⟨nofun, h⟩

theorem Proper.endNode (h : b.Proper) (before : Nat) (anchor : Option String) {d : Draft}
    (hd : d.Proper) : (b.endNode before anchor d).Proper := by
  cases anchor with
  | none => exact h
  | some name =>
    intro p hp e he
    rcases List.mem_or_eq_of_mem_set hp with hp | rfl
    · exact h p hp e he
    · cases he
      exact hd

end Builder

theorem proper_readProperties {b after : Builder} {properties : Properties} (h : b.Proper)
    (hread : readProperties b = some (properties, after)) : after.Proper := by
  unfold readProperties at hread
  split at hread
  · split at hread
    · obtain ⟨_, _, heq⟩ := Option.map_eq_some_iff.mp hread
      cases heq
      exact h
    · cases hread
      exact h
  · split at hread
    · obtain ⟨_, _, heq⟩ := Option.map_eq_some_iff.mp hread
      cases heq
      exact h
    · obtain ⟨_, _, heq⟩ := Option.map_eq_some_iff.mp hread
      cases heq
      exact h
  · cases hread
    exact h

/-! The reading of nodes has a bound on the recursion. What was read keeps a property, and the nodes
that aliases may stand for after it are proper. -/

/-- What was read has a property, and so do the nodes that were kept. -/
def Sound {α : Type} (P : α → Prop) (part : α × Option Builder) : Prop :=
  P part.1 ∧ ∀ b, part.2 = some b → b.Proper

theorem Sound.of_none {α : Type} {P : α → Prop} {a : α} (h : P a) : Sound P (a, none) :=
  ⟨h, nofun⟩

theorem Sound.of_some {α : Type} {P : α → Prop} {a : α} {b : Builder} (h : P a) (hb : b.Proper) :
    Sound P (a, some b) :=
  ⟨h, fun _ heq => Option.some.inj heq ▸ hb⟩

/-- All that is read with a bound is sound. -/
structure Reads (fuel : Nat) : Prop where
  node (depth : Nat) (inBlock indentless : Bool) {b : Builder} (h : b.Proper) :
    Sound Draft.Proper (readNode fuel depth inBlock indentless b)
  content (depth : Nat) (inBlock indentless : Bool) (properties : Properties) {b : Builder}
    (h : b.Proper) : Sound Draft.Proper (readContent fuel depth inBlock indentless properties b)
  blockItems (depth : Nat) {b : Builder} (h : b.Proper) :
    Sound Draft.ItemsProper (readBlockItems fuel depth b)
  indentless (depth : Nat) {b : Builder} (h : b.Proper) :
    Sound Draft.ItemsProper (readIndentless fuel depth b)
  blockEntries (depth : Nat) {b : Builder} (h : b.Proper) :
    Sound Draft.EntriesProper (readBlockEntries fuel depth b)
  flowItems (depth : Nat) (isFirst : Bool) {b : Builder} (h : b.Proper) :
    Sound Draft.ItemsProper (readFlowItems fuel depth isFirst b)
  pair (depth : Nat) {b : Builder} (h : b.Proper) : Sound Draft.Proper (readPair fuel depth b)
  flowEntries (depth : Nat) (isFirst : Bool) {b : Builder} (h : b.Proper) :
    Sound Draft.EntriesProper (readFlowEntries fuel depth isFirst b)

theorem sound_brokenPart : Sound Draft.Proper brokenPart := .of_none trivial

theorem sound_brokenItems : Sound Draft.ItemsProper brokenItems := .of_none ⟨trivial, trivial⟩

theorem sound_brokenEntries : Sound Draft.EntriesProper brokenEntries :=
  .of_none ⟨trivial, trivial⟩

theorem sound_emptyScalar {b : Builder} (h : b.Proper) :
    Sound Draft.Proper (emptyScalar, some b) :=
  .of_some proper_emptyScalar h

/-- An item is read, and more of them unless the text breaks off there. -/
theorem Sound.items {part : Part} (h : Sound Draft.Proper part)
    {more : Builder → List Draft × Option Builder}
    (hmore : ∀ b, b.Proper → Sound Draft.ItemsProper (more b)) :
    Sound Draft.ItemsProper (match part.2 with
      | none => ([part.1], none)
      | some b => (part.1 :: (more b).1, (more b).2)) := by
  obtain ⟨d, after⟩ := part
  cases after with
  | none => exact .of_none ⟨h.1, trivial⟩
  | some b =>
    obtain ⟨hitems, hafter⟩ := hmore b (h.2 b rfl)
    exact ⟨⟨h.1, hitems⟩, hafter⟩

/-- The value of an entry is read, and more entries unless the text breaks off there. -/
theorem Sound.entries {part : Part} (h : Sound Draft.Proper part) {key : Draft}
    {more : Builder → List (Draft × Draft) × Option Builder}
    (hmore : ∀ b, b.Proper → Sound Draft.EntriesProper (more b)) :
    Sound Draft.EntriesProper (match part.2 with
      | none => ([(key, part.1)], none)
      | some b => ((key, part.1) :: (more b).1, (more b).2)) := by
  obtain ⟨d, after⟩ := part
  cases after with
  | none => exact .of_none ⟨h.1, trivial⟩
  | some b =>
    obtain ⟨hentries, hafter⟩ := hmore b (h.2 b rfl)
    exact ⟨⟨h.1, hentries⟩, hafter⟩

variable {fuel : Nat} (hreads : Reads fuel)

include hreads

namespace Reads

theorem node_succ (depth : Nat) (inBlock indentless : Bool) {b : Builder} (h : b.Proper) :
    Sound Draft.Proper (readNode (fuel + 1) depth inBlock indentless b) := by
  rw [readNode]
  split
  · split
    · next hd => exact .of_some (h.aliased hd) h
    · exact sound_brokenPart
  · split
    · exact sound_brokenPart
    · next properties after hproperties =>
      have hbegun := (proper_readProperties h hproperties).beginNode properties.anchor
      obtain ⟨hd, hafter⟩ := hreads.content (depth + 1) inBlock indentless properties hbegun
      refine ⟨hd, fun last hlast => ?_⟩
      obtain ⟨b', hb', rfl⟩ := Option.map_eq_some_iff.mp hlast
      exact (hafter b' hb').endNode _ _ hd

theorem content_succ (depth : Nat) (inBlock indentless : Bool) (properties : Properties)
    {b : Builder} (h : b.Proper) :
    Sound Draft.Proper (readContent (fuel + 1) depth inBlock indentless properties b) := by
  have hlist : ∀ {part}, Sound Draft.ItemsProper part →
      Sound Draft.Proper (collection depth properties.tag (.list none part.1), part.2) :=
    fun hpart => ⟨proper_collection (d := .list none _) hpart.1 _ _, hpart.2⟩
  have hdict : ∀ {part}, Sound Draft.EntriesProper part →
      Sound Draft.Proper (collection depth properties.tag (.dict part.1), part.2) :=
    fun hpart => ⟨proper_collection (d := .dict _) hpart.1 _ _, hpart.2⟩
  rw [readContent]
  dsimp only
  split
  · split_ifs
    · exact hlist (hreads.indentless depth h)
    · exact .of_some (proper_scalarOf _ _ _) h
    · exact sound_brokenPart
  · exact .of_some (proper_scalarOf _ _ _) h
  · exact hlist (hreads.flowItems depth true h)
  · exact hdict (hreads.flowEntries depth true h)
  · split_ifs
    · exact hlist (hreads.blockItems depth h)
    · exact hdict (hreads.blockEntries depth h)
    · exact .of_some (proper_scalarOf _ _ _) h
    · exact sound_brokenPart

/-- A node, or an empty scalar where none stands. -/
theorem nodeOrEmpty (isEmpty : Bool) (depth : Nat) (inBlock indentless : Bool) {b : Builder}
    (h : b.Proper) : Sound Draft.Proper
      (if isEmpty then (emptyScalar, some b) else readNode fuel depth inBlock indentless b) := by
  split
  · exact sound_emptyScalar h
  · exact hreads.node _ _ _ h

theorem blockItems_succ (depth : Nat) {b : Builder} (h : b.Proper) :
    Sound Draft.ItemsProper (readBlockItems (fuel + 1) depth b) := by
  rw [readBlockItems]
  split
  · exact (hreads.nodeOrEmpty _ depth true false h.advance).items
      fun b hb => hreads.blockItems depth hb
  · exact .of_some trivial h
  · exact sound_brokenItems

theorem indentless_succ (depth : Nat) {b : Builder} (h : b.Proper) :
    Sound Draft.ItemsProper (readIndentless (fuel + 1) depth b) := by
  rw [readIndentless]
  split
  · exact (hreads.nodeOrEmpty _ depth true false h.advance).items
      fun b hb => hreads.indentless depth hb
  · exact sound_brokenItems
  · exact .of_some trivial h

theorem blockEntries_succ (depth : Nat) {b : Builder} (h : b.Proper) :
    Sound Draft.EntriesProper (readBlockEntries (fuel + 1) depth b) := by
  rw [readBlockEntries]
  dsimp only
  split
  · -- A key that breaks off has a broken value, any other key is followed by its value.
    have hkey := hreads.nodeOrEmpty (endsEntry b.advance.peek) depth true true h.advance
    split
    · exact .of_none ⟨trivial, trivial⟩
    · next after hafter =>
      have hproper := hkey.2 after hafter
      refine Sound.entries ?_ fun b hb => hreads.blockEntries depth hb
      split_ifs
      · exact sound_emptyScalar hproper
      · exact hreads.node depth true true hproper.advance
      · exact sound_brokenPart
      · exact sound_emptyScalar hproper
  · exact .of_some trivial h
  · exact sound_brokenEntries

theorem flowItems_succ (depth : Nat) (isFirst : Bool) {b : Builder} (h : b.Proper) :
    Sound Draft.ItemsProper (readFlowItems (fuel + 1) depth isFirst b) := by
  rw [readFlowItems]
  dsimp only
  have hstart : (if isFirst = true then b else b.advance).Proper := by
    split
    · exact h
    · exact h.advance
  generalize (if isFirst = true then b else b.advance) = start at hstart ⊢
  split
  · exact .of_some trivial h
  split
  · exact sound_brokenItems
  split
  · exact .of_some trivial hstart.advance
  refine Sound.items ?_ fun b hb => hreads.flowItems depth false hb
  split
  · exact hreads.pair (depth + 1) hstart.advance
  · exact hreads.node depth false false hstart

/-- A value in a flow collection is read if its mark is there, and is an empty scalar otherwise. -/
theorem flowValue (hasValue isEmpty : Bool) (depth : Nat) {b : Builder} (h : b.Proper) :
    Sound Draft.Proper
      (if hasValue then
        if isEmpty then (emptyScalar, some b.advance)
        else readNode fuel depth false false b.advance
      else (emptyScalar, some b)) := by
  split
  · exact hreads.nodeOrEmpty isEmpty depth false false h.advance
  · exact sound_emptyScalar h

theorem pair_succ (depth : Nat) {b : Builder} (h : b.Proper) :
    Sound Draft.Proper (readPair (fuel + 1) depth b) := by
  rw [readPair]
  dsimp only
  have hkey : Sound Draft.Proper
      (if (b.peek == some .value || endsFlowItem b.peek) = true then (emptyScalar, some b.advance)
        else readNode fuel depth false false b) := by
    split
    · exact sound_emptyScalar h.advance
    · exact hreads.node depth false false h
  split
  · exact .of_none (proper_collection (d := .dict [(_, .broken _)]) ⟨trivial, trivial⟩ _ _)
  · next after hafter =>
    obtain ⟨hvalue, hlast⟩ :=
      hreads.flowValue (after.peek == some .value) (endsFlowItem after.advance.peek) depth
        (hkey.2 after hafter)
    refine ⟨proper_collection ?_ depth none, hlast⟩
    exact ⟨hvalue, trivial⟩

/-- Behind its key the rest of an entry in a flow mapping is read, and more entries after it. -/
theorem flowEntry_rest (depth : Nat) (key : Draft) (mayHaveValue : Bool)
    (after : Option Builder) : (∀ b, after = some b → b.Proper) →
    Sound Draft.EntriesProper (match after with
      | none => ([(key, .broken .malformed)], none)
      | some b =>
        let (value, after) : Part :=
          if mayHaveValue && b.peek == some .value then
            let b := b.advance
            if endsFlowEntry b.peek then (emptyScalar, some b)
            else readNode fuel depth false false b
          else (emptyScalar, some b)
        match after with
        | none => ([(key, value)], none)
        | some b =>
          let (more, after) := readFlowEntries fuel depth false b
          ((key, value) :: more, after)) := by
  intro hafter
  cases after with
  | none => exact .of_none ⟨trivial, trivial⟩
  | some b =>
    exact (hreads.flowValue (mayHaveValue && b.peek == some .value)
      (endsFlowEntry b.advance.peek) depth (hafter b rfl)).entries
        fun b hb => hreads.flowEntries depth false hb

theorem flowEntries_succ (depth : Nat) (isFirst : Bool) {b : Builder} (h : b.Proper) :
    Sound Draft.EntriesProper (readFlowEntries (fuel + 1) depth isFirst b) := by
  rw [readFlowEntries]
  dsimp only
  have hstart : (if isFirst = true then b else b.advance).Proper := by
    split
    · exact h
    · exact h.advance
  generalize (if isFirst = true then b else b.advance) = start at hstart ⊢
  split
  · exact .of_some trivial h
  split
  · exact sound_brokenEntries
  split
  · exact .of_some trivial hstart.advance
  -- A mark before the key allows a value after it.
  split_ifs
  · exact hreads.flowEntry_rest depth _ true _ (sound_emptyScalar hstart.advance).2
  · exact hreads.flowEntry_rest depth _ true _ (hreads.node depth false false hstart.advance).2
  · exact hreads.flowEntry_rest depth _ false _ (hreads.node depth false false hstart).2

end Reads

omit hreads

theorem reads (fuel : Nat) : Reads fuel := by
  induction fuel with
  | zero =>
    constructor
    case node =>
      intros
      rw [readNode]
      exact sound_brokenPart
    case content =>
      intros
      rw [readContent]
      exact sound_brokenPart
    case pair =>
      intros
      rw [readPair]
      exact sound_brokenPart
    case blockItems =>
      intros
      rw [readBlockItems]
      exact sound_brokenItems
    case indentless =>
      intros
      rw [readIndentless]
      exact sound_brokenItems
    case flowItems =>
      intros
      rw [readFlowItems]
      exact sound_brokenItems
    case blockEntries =>
      intros
      rw [readBlockEntries]
      exact sound_brokenEntries
    case flowEntries =>
      intros
      rw [readFlowEntries]
      exact sound_brokenEntries
  | succ fuel ih =>
    exact {
      node := ih.node_succ
      content := ih.content_succ
      blockItems := ih.blockItems_succ
      indentless := ih.indentless_succ
      blockEntries := ih.blockEntries_succ
      flowItems := ih.flowItems_succ
      pair := ih.pair_succ
      flowEntries := ih.flowEntries_succ }

theorem proper_readDocument {b : Builder} (h : b.Proper) : (readDocument b).root.Proper := by
  rw [readDocument]
  cases b.peek with
  | none => exact sound_brokenPart.1
  | some t =>
    by_cases ht : isOutside t = true
    · simp only [if_pos ht]
      exact (sound_emptyScalar h).1
    · simp only [if_neg ht]
      exact ((reads _).node 0 true false h).1

/-- All values in the draft of a text are proper. -/
theorem proper_root_read (text : String) : (read text).root.Proper := by
  have hfresh : ∀ {tokens : List Token} {handles : List (String × String)},
      ({ tokens, handles } : Builder).Proper := fun p hp => absurd hp List.not_mem_nil
  rw [read]
  split
  · trivial
  · trivial
  · exact proper_emptyScalar
  · split
    · exact proper_readDocument hfresh
    · split
      · exact proper_readDocument hfresh
      · trivial

end ApiForge.Yaml
