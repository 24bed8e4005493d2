import ApiForge.Yaml.Scanner
import ApiForge.Yaml.Word

/-!
From the tokens of a YAML text to its draft. A node that bears an anchor is kept for the aliases
that follow; an alias inside the node that it names would never end, so it is closed to whoever
opens it.
-/

namespace ApiForge.Yaml

/-- The number of collections that may be open at once. -/
def maxDepth : Nat := 128

/-- The state of the reader: the tokens to come and the nodes with anchors, latest first. A node
that is still being read has no draft yet. -/
structure Builder where
  tokens : List Token
  nodes : List (String × Option Draft) := []
  /-- What the handles of tags stand for. -/
  handles : List (String × String)

/-- What the handles of tags stand for unless a directive says otherwise. -/
def defaultHandles : List (String × String) := [("!", "!"), ("!!", "tag:yaml.org,2002:")]

/-- A draft with the state after it; none after a break. -/
abbrev Part := Draft × Option Builder

/-- The break of a text. -/
def brokenPart : Part := (.broken .malformed, none)

/-- An empty scalar. -/
def emptyScalar : Draft := .scalar (scalarOf none .plain "")

namespace Builder

def peek (b : Builder) : Option Token := b.tokens.head?

/-- The state after the next token. -/
def advance (b : Builder) : Builder := { b with tokens := b.tokens.tail }

/-- The draft that an alias stands for. -/
def aliased (b : Builder) (name : String) : Option Draft :=
  (b.nodes.lookup name).map fun node => node.getD (.sealed .malformed (.dict []))

/-- Begins a node with an anchor. -/
def beginNode (b : Builder) : Option String → Builder
  | some name => { b with nodes := (name, none) :: b.nodes }
  | none => b

/-- Ends a node that began when `before` anchors were known. -/
def endNode (b : Builder) (before : Nat) (anchor : Option String) (d : Draft) : Builder :=
  match anchor with
  | some name =>
    let i := b.nodes.length - 1 - before
    { b with nodes := b.nodes.set i (name, some d) }
  | none => b

/-- The full name of a tag. -/
def tagName (b : Builder) (handle suffix : String) : Option String :=
  if handle.isEmpty then some suffix else (b.handles.lookup handle).map (· ++ suffix)

end Builder

/-- The properties before a node. -/
structure Properties where
  anchor : Option String := none
  tag : Option String := none

/-- The tag of a scalar. A tag that is a mark and nothing else says nothing about it. -/
def namedTag (tag : Option String) : Option String := tag.filter (· != "!")

/-- Reads the properties before a node: an anchor and a tag, in any order. -/
def readProperties (b : Builder) : Option (Properties × Builder) :=
  match b.peek with
  | some (.anchor name) =>
    match b.advance.peek with
    | some (.tag handle suffix) =>
      (b.tagName handle suffix).map fun tag => (⟨some name, some tag⟩, b.advance.advance)
    | _ => some (⟨some name, none⟩, b.advance)
  | some (.tag handle suffix) =>
    match b.advance.peek with
    | some (.anchor name) =>
      (b.tagName handle suffix).map fun tag => (⟨some name, some tag⟩, b.advance.advance)
    | _ => (b.tagName handle suffix).map fun tag => (⟨none, some tag⟩, b.advance)
  | _ => some ({}, b)

/-- A collection under a tag, at a depth. -/
def collection (depth : Nat) (tag : Option String) (d : Draft) : Draft :=
  let d := if depth ≤ maxDepth then d else .sealed .malformed d
  match tag with
  | some t => if t.startsWith "!" then .marked d else d
  | none => d

/-- Whether a token ends the value of a list item in a block. -/
def endsItem : Option Token → Bool
  | some .blockEntry | some .key | some .value | some .blockEnd => true
  | _ => false

/-- Whether a token ends the key or value of an entry in a block. -/
def endsEntry : Option Token → Bool
  | some .key | some .value | some .blockEnd => true
  | _ => false

/-- Whether a token ends an item in a flow sequence. -/
def endsFlowItem : Option Token → Bool
  | some .flowEntry | some .flowSequenceEnd => true
  | _ => false

/-- Whether a token ends the value of an entry in a flow mapping. -/
def endsFlowEntry : Option Token → Bool
  | some .flowEntry | some .flowMappingEnd => true
  | _ => false

/-- Items that end in a break. -/
def brokenItems : List Draft × Option Builder := ([.broken .malformed], none)

/-- Entries that end in a break. -/
def brokenEntries : List (Draft × Draft) × Option Builder :=
  ([(.broken .malformed, .broken .malformed)], none)

mutual

/-- Reads a node that lies in `depth` collections. Only where `inBlock` holds may it be a block
collection, and only where `indentless` holds may a sequence begin without an indentation of its
own. Each call reads a token or is one of a bounded number between two tokens, which bounds the
recursion. -/
def readNode (fuel depth : Nat) (inBlock indentless : Bool) (b : Builder) : Part :=
  match fuel with
  | 0 => brokenPart
  | fuel + 1 =>
    match b.peek with
    | some (.alias name) =>
      match b.aliased name with
      | some d => (d, some b.advance)
      | none => brokenPart
    | _ =>
      match readProperties b with
      | none => brokenPart
      | some (properties, b) =>
        let before := b.nodes.length
        let b := b.beginNode properties.anchor
        let (d, after) := readContent fuel (depth + 1) inBlock indentless properties b
        (d, after.map fun b => b.endNode before properties.anchor d)

/-- Reads what follows the properties of a node. -/
def readContent (fuel depth : Nat) (inBlock indentless : Bool) (properties : Properties)
    (b : Builder) : Part :=
  match fuel with
  | 0 => brokenPart
  | fuel + 1 =>
    let list (part : List Draft × Option Builder) : Part :=
      (collection depth properties.tag (.list none part.1), part.2)
    let dict (part : List (Draft × Draft) × Option Builder) : Part :=
      (collection depth properties.tag (.dict part.1), part.2)
    match b.peek with
    | some .blockEntry =>
      if indentless then list (readIndentless fuel depth b)
      else if properties.anchor.isSome || properties.tag.isSome then
        (.scalar (scalarOf properties.tag .plain ""), some b)
      else brokenPart
    | some (.scalar style text) =>
      (.scalar (scalarOf (namedTag properties.tag) style text), some b.advance)
    | some .flowSequenceStart => list (readFlowItems fuel depth true b.advance)
    | some .flowMappingStart => dict (readFlowEntries fuel depth true b.advance)
    | other =>
      if inBlock && other == some .blockSequenceStart then
        list (readBlockItems fuel depth b.advance)
      else if inBlock && other == some .blockMappingStart then
        dict (readBlockEntries fuel depth b.advance)
      else if other.isSome && (properties.anchor.isSome || properties.tag.isSome) then
        (.scalar (scalarOf properties.tag .plain ""), some b)
      else brokenPart

def readBlockItems (fuel depth : Nat) (b : Builder) : List Draft × Option Builder :=
  match fuel with
  | 0 => brokenItems
  | fuel + 1 =>
    match b.peek with
    | some .blockEntry =>
      let b := b.advance
      let (item, after) :=
        if b.peek == some .blockEntry || b.peek == some .blockEnd then (emptyScalar, some b)
        else readNode fuel depth true false b
      match after with
      | none => ([item], none)
      | some b =>
        let (more, after) := readBlockItems fuel depth b
        (item :: more, after)
    | some .blockEnd => ([], some b.advance)
    | _ => brokenItems

/-- Reads the items of a sequence without an indentation of its own. -/
def readIndentless (fuel depth : Nat) (b : Builder) : List Draft × Option Builder :=
  match fuel with
  | 0 => brokenItems
  | fuel + 1 =>
    match b.peek with
    | some .blockEntry =>
      let b := b.advance
      let (item, after) :=
        if endsItem b.peek then (emptyScalar, some b) else readNode fuel depth true false b
      match after with
      | none => ([item], none)
      | some b =>
        let (more, after) := readIndentless fuel depth b
        (item :: more, after)
    | none => brokenItems
    | _ => ([], some b)

def readBlockEntries (fuel depth : Nat) (b : Builder) :
    List (Draft × Draft) × Option Builder :=
  match fuel with
  | 0 => brokenEntries
  | fuel + 1 =>
    let readEntry (key : Draft) (after : Option Builder) :
        List (Draft × Draft) × Option Builder :=
      match after with
      | none => ([(key, .broken .malformed)], none)
      | some b =>
        let (value, after) : Part :=
          if b.peek == some .value then
            let b := b.advance
            if endsEntry b.peek then (emptyScalar, some b) else readNode fuel depth true true b
          else if b.peek.isNone then brokenPart
          else (emptyScalar, some b)
        match after with
        | none => ([(key, value)], none)
        | some b =>
          let (more, after) := readBlockEntries fuel depth b
          ((key, value) :: more, after)
    match b.peek with
    | some .key =>
      let b := b.advance
      let (key, after) : Part :=
        if endsEntry b.peek then (emptyScalar, some b) else readNode fuel depth true true b
      readEntry key after
    | some .blockEnd => ([], some b.advance)
    | _ => brokenEntries

/-- Reads the items of a flow sequence, from its beginning or after an item. -/
def readFlowItems (fuel depth : Nat) (isFirst : Bool) (b : Builder) :
    List Draft × Option Builder :=
  match fuel with
  | 0 => brokenItems
  | fuel + 1 =>
    if b.peek == some .flowSequenceEnd then ([], some b.advance)
    else if !isFirst && b.peek != some .flowEntry then brokenItems
    else
      let b := if isFirst then b else b.advance
      if b.peek == some .flowSequenceEnd then ([], some b.advance)
      else
        let (item, after) : Part :=
          if b.peek == some .key then readPair fuel (depth + 1) b.advance
          else readNode fuel depth false false b
        match after with
        | none => ([item], none)
        | some b =>
          let (more, after) := readFlowItems fuel depth false b
          (item :: more, after)

/-- Reads an item of a flow sequence that is a single pair of key and value. -/
def readPair (fuel depth : Nat) (b : Builder) : Part :=
  match fuel with
  | 0 => brokenPart
  | fuel + 1 =>
    let (key, after) : Part :=
      if b.peek == some .value || endsFlowItem b.peek then (emptyScalar, some b.advance)
      else readNode fuel depth false false b
    match after with
    | none => (collection depth none (.dict [(key, .broken .malformed)]), none)
    | some b =>
      let (value, after) : Part :=
        if b.peek == some .value then
          let b := b.advance
          if endsFlowItem b.peek then (emptyScalar, some b)
          else readNode fuel depth false false b
        else (emptyScalar, some b)
      (collection depth none (.dict [(key, value)]), after)

/-- Reads the entries of a flow mapping, from its beginning or after an entry. -/
def readFlowEntries (fuel depth : Nat) (isFirst : Bool) (b : Builder) :
    List (Draft × Draft) × Option Builder :=
  match fuel with
  | 0 => brokenEntries
  | fuel + 1 =>
    if b.peek == some .flowMappingEnd then ([], some b.advance)
    else if !isFirst && b.peek != some .flowEntry then brokenEntries
    else
      let b := if isFirst then b else b.advance
      if b.peek == some .flowMappingEnd then ([], some b.advance)
      else
        let (key, after, mayHaveValue) : Draft × Option Builder × Bool :=
          if b.peek == some .key then
            let b := b.advance
            if b.peek == some .value || endsFlowEntry b.peek then (emptyScalar, some b, true)
            else
              let (key, after) := readNode fuel depth false false b
              (key, after, true)
          else
            let (key, after) := readNode fuel depth false false b
            (key, after, false)
        match after with
        | none => ([(key, .broken .malformed)], none)
        | some b =>
          let (value, after) : Part :=
            if mayHaveValue && b.peek == some .value then
              let b := b.advance
              if endsFlowEntry b.peek then (emptyScalar, some b)
              else readNode fuel depth false false b
            else (emptyScalar, some b)
          match after with
          | none => ([(key, value)], none)
          | some b =>
            let (more, after) := readFlowEntries fuel depth false b
            ((key, value) :: more, after)

end

/-- The directives before a document: whether a version was given, and the handles. -/
structure Directives where
  hasVersion : Bool := false
  handles : List (String × String) := []

/-- Reads the directives before a document. No directive is given twice. -/
def readDirectives (ds : Directives) : List Token → Option (Directives × List Token)
  | .versionDirective major minor :: rest =>
    if ds.hasVersion || major != 1 || !(minor == 1 || minor == 2) then none
    else readDirectives { ds with hasVersion := true } rest
  | .tagDirective handle address :: rest =>
    if (ds.handles.lookup handle).isSome then none
    else readDirectives { ds with handles := ds.handles ++ [(handle, address)] } rest
  | tokens => some (ds, tokens)

/-- Whether a token stands between documents. -/
def isOutside : Token → Bool
  | .versionDirective _ _ | .tagDirective _ _ | .documentStart | .documentEnd | .streamEnd => true
  | _ => false

/-- Whether only marks of the end of a document are left. -/
def isAtEnd : List Token → Bool
  | .documentEnd :: rest => isAtEnd rest
  | [.streamEnd] => true
  | _ => false

/-- Reads the node of a document and what follows it. -/
def readDocument (b : Builder) : Reading :=
  let (root, after) : Part :=
    match b.peek with
    | none => brokenPart
    | some t => if isOutside t then (emptyScalar, some b)
        else readNode (4 * b.tokens.length + 8) 0 true false b
  { root
    rest :=
      if (after.map fun b => isAtEnd b.tokens).getD false then .ok () else .error .malformed }

/-- Reads a YAML text, which holds at most one document. A text without a document reads as an
empty scalar. -/
def read (text : String) : Reading :=
  let tokens := scan text.toList
  let broken : Reading := ⟨.broken .malformed, .error .malformed⟩
  match tokens with
  | [] => broken
  | .documentEnd :: _ => broken
  | [.streamEnd] => ⟨emptyScalar, .ok ()⟩
  | first :: _ =>
    if !isOutside first then readDocument { tokens, handles := defaultHandles }
    else
      match readDirectives {} tokens with
      | some (ds, .documentStart :: rest) =>
        readDocument { tokens := rest, handles := ds.handles ++ defaultHandles }
      | _ => broken

end ApiForge.Yaml
