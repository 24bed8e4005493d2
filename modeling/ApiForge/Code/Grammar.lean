import ApiForge.Code.Token

/-!
What tokens make a unit. A reader takes tokens from the front of a list and answers with the rest,
or with nothing if they do not fit. Declarations and types are read token by token; of the bodies
of functions and of the values of constants it is only asked that their brackets match.
-/

namespace ApiForge.Code

abbrev Reader := List Token → Option (List Token)

/-- Reads a character of punctuation. -/
def mark (c : Char) : Reader
  | .mark d :: rest => if c = d then some rest else none
  | _ => none

def marks : List Char → Reader
  | [], ts => some ts
  | c :: cs, ts => do marks cs (← mark c ts)

def word (w : String) : Reader
  | .word s :: rest => if s = w.toList then some rest else none
  | _ => none

def name : Reader
  | .word s :: rest => if isName s then some rest else none
  | .raw _ :: rest => some rest
  | _ => none

def lifetime : Reader
  | .lifetime :: rest => some rest
  | _ => none

def literal : Reader
  | .literal :: rest => some rest
  | _ => none

/-- Reads with one reader and then with another. -/
def both (r q : Reader) : Reader := fun ts => do q (← r ts)

/-- Reads with a reader where it fits. -/
def optional (r : Reader) : Reader := fun ts => (r ts).or (some ts)

/-- Reads with the first reader that fits. -/
def oneOf : List Reader → Reader
  | [], _ => none
  | r :: more, ts => (r ts).or (oneOf more ts)

def fits (r : Reader) (ts : List Token) : Bool := (r ts).isSome

/-- Reads as often as a reader fits, at most some number of times. -/
def many (r : Reader) : Nat → Reader
  | 0, ts => some ts
  | n + 1, ts =>
    match r ts with
    | some rest => many r n rest
    | none => some ts

/-- Reads items with commas between them up to a closing mark. A comma may stand before the
mark. -/
def listed (item : Reader) (close : Char) : Nat → Reader
  | 0, _ => none
  | n + 1, ts =>
    match mark close ts with
    | some rest => some rest
    | none => do
      let ts ← item ts
      match mark ',' ts with
      | some ts => listed item close n ts
      | none => mark close ts

/-- The mark that closes a bracket. -/
def closing? (c : Char) : Option Char :=
  match c with
  | '(' => some ')'
  | '[' => some ']'
  | '\x7b' => some '\x7d'
  | _ => none

/-- Whether a mark closes a bracket. -/
def isClosing (c : Char) : Bool := c == ')' || c == ']' || c == '\x7d'

/-- Reads up to the mark that closes the outermost of some open brackets, given by the marks that
close them, innermost first. -/
def closed (brackets : List Char) : Reader
  | [] => none
  | .mark c :: rest =>
    match closing? c with
    | some d => closed (d :: brackets) rest
    | none =>
      if isClosing c then
        match brackets with
        | [] => none
        | [d] => if c = d then some rest else none
        | d :: more => if c = d then closed more rest else none
      else closed brackets rest
  | _ :: rest => closed brackets rest

/-- Reads a bracket with all that is in it. -/
def group (bracket : Char) : Reader := fun ts => do
  closed [← closing? bracket] (← mark bracket ts)

def anyGroup : Reader := oneOf [group '(', group '[', group '\x7b']

/-- Reads a value up to the semicolon behind it. -/
def value : Nat → Reader
  | 0, _ => none
  | n + 1, ts =>
    match mark ';' ts with
    | some rest => some rest
    | none =>
      match anyGroup ts with
      | some rest => value n rest
      | none =>
        match ts with
        | .mark c :: rest => if isClosing c then none else value n rest
        | _ :: rest => value n rest
        | [] => none

def attributes : Reader := fun ts => many (both (mark '#') (group '[')) ts.length ts

/-- Reads who may see a declaration. -/
def visibility : Reader := optional (both (word "pub") (optional (group '(')))

def colons : Reader := marks [':', ':']

/-- Reads a name or a word that stands for one in a path. -/
def segmentName : Reader := oneOf [name, word "self", word "super", word "crate", word "Self"]

/-- Whether a path begins here. -/
def beginsPath (ts : List Token) : Bool := fits segmentName ts || fits colons ts

/-- Reads what may end a path that names a macro. -/
def macroCall : Reader := both (mark '!') anyGroup

mutual

/-- Reads a type, without bounds behind it. -/
def plainType : Nat → Reader
  | 0, _ => none
  | n + 1, ts =>
    match ts with
    | .mark '(' :: rest => listed (type n) ')' rest.length rest
    | .mark '[' :: rest => do
      let rest ← type n rest
      if fits (mark ';') rest then closed [']'] rest else mark ']' rest
    | .mark '!' :: rest => some rest
    | .mark '*' :: rest => do plainType n (← oneOf [word "const", word "mut"] rest)
    | .mark '&' :: rest => do plainType n (← both (optional lifetime) (optional (word "mut")) rest)
    | .mark '<' :: rest => do
      let rest ← type n rest
      let rest ← match word "as" rest with
        | some rest => path n rest
        | none => some rest
      if fits (both (mark '>') colons) rest then path n (← mark '>' rest) else none
    | .word ['_'] :: rest => some rest
    | .word ['f', 'n'] :: rest => do
      result n (← both (mark '(') (fun ts => listed (type n) ')' ts.length ts) rest)
    | .word ['i', 'm', 'p', 'l'] :: rest => bounds n rest
    | .word ['d', 'y', 'n'] :: rest => bounds n rest
    | ts => if beginsPath ts then do optional macroCall (← path n ts) else none

def type : Nat → Reader
  | 0, _ => none
  | n + 1, ts =>
    if beginsPath ts || fits (both lifetime (mark '+')) ts then do
      let rest ← if fits lifetime ts then lifetime ts else plainType n ts
      match mark '+' rest with
      | some rest => bounds n rest
      | none => some rest
    else plainType n ts

/-- Reads the type that a function gives back, if one is told. -/
def result : Nat → Reader
  | 0, _ => none
  | n + 1, ts =>
    match marks ['-', '>'] ts with
    | some rest => plainType n rest
    | none => some ts

/-- Reads a path of names with their arguments. -/
def path : Nat → Reader
  | 0, _ => none
  | n + 1, ts => do
    let rest ← segmentName (← optional colons ts)
    let rest ← pathArguments n rest
    if fits colons rest then path n rest else some rest

/-- Reads the arguments of a name in a path. -/
def pathArguments : Nat → Reader
  | 0, _ => none
  | n + 1, ts =>
    match optional (fun ts => if fits (both colons (mark '<')) ts then colons ts else none) ts with
    | some (.mark '<' :: rest) => listed (typeArgument n) '>' rest.length rest
    | some (.mark '(' :: rest) => do result n (← listed (type n) ')' rest.length rest)
    | _ => some ts

/-- Reads an argument of a generic type. -/
def typeArgument : Nat → Reader
  | 0, _ => none
  | n + 1, ts =>
    if fits (both name (mark '=')) ts then do typeArgument n (← both name (mark '=') ts)
    else if fits (both name (mark ':')) ts && !fits (both name colons) ts then
      do bounds n (← both name (mark ':') ts)
    else
      match ts with
      | .lifetime :: rest => if fits (mark '+') rest then type n ts else some rest
      | .literal :: rest => some rest
      | .word ['t', 'r', 'u', 'e'] :: rest => some rest
      | .word ['f', 'a', 'l', 's', 'e'] :: rest => some rest
      | .mark '-' :: rest => literal rest
      | .mark '\x7b' :: _ => group '\x7b' ts
      | ts => type n ts

/-- Reads bounds with plus signs between them. -/
def bounds : Nat → Reader
  | 0, _ => none
  | n + 1, ts =>
    match bound n ts with
    | some rest =>
      match mark '+' rest with
      | some rest => bounds n rest
      | none => some rest
    | none => some ts

def bound : Nat → Reader
  | 0, _ => none
  | n + 1, ts =>
    match ts with
    | .lifetime :: rest => some rest
    | .mark '(' :: rest => do mark ')' (← bound n rest)
    | ts => do
      let rest ← optional (mark '?') ts
      if beginsPath rest then path n rest else none

end

/-- The most steps that reading a list of tokens can take. -/
def steps (ts : List Token) : Nat := 4 * ts.length + 4

def anyType : Reader := fun ts => type (steps ts) ts

def anyBounds : Reader := fun ts => bounds (steps ts) ts

def genericParameter : Reader := fun ts => do
  let ts ← attributes ts
  match lifetime ts with
  | some rest => optional (both (mark ':') anyBounds) rest
  | none =>
    match word "const" ts with
    | some rest => both name (both (mark ':') anyType) rest
    | none =>
      let bounded := optional (both (mark ':') anyBounds)
      both name (both bounded (optional (both (mark '=') anyType))) ts

def genericParameters : Reader :=
  optional (both (mark '<') fun ts => listed genericParameter '>' ts.length ts)

/-- Reads a condition on a generic parameter. -/
def condition : Reader := both (oneOf [lifetime, anyType]) (both (mark ':') anyBounds)

def conditions : Reader :=
  optional (both (word "where") fun ts => do
    let rest ← many (both condition (mark ',')) ts.length ts
    optional condition rest)

def namedField : Reader :=
  both attributes (both visibility (both name (both (mark ':') anyType)))

def positionalField : Reader := both attributes (both visibility anyType)

def namedFields : Reader :=
  both (mark '\x7b') fun ts => listed namedField '\x7d' ts.length ts

def positionalFields : Reader := both (mark '(') fun ts => listed positionalField ')' ts.length ts

def alternative : Reader :=
  both attributes (both visibility (both name (optional (oneOf [namedFields, positionalFields]))))

/-- Reads a struct behind its keyword. -/
def structItem : Reader :=
  both name <| both genericParameters <| both conditions <|
    oneOf [namedFields, both positionalFields (both conditions (mark ';')), mark ';']

def enumItem : Reader :=
  both name <| both genericParameters <| both conditions <|
    both (mark '\x7b') fun ts => listed alternative '\x7d' ts.length ts

/-- Reads the name that a parameter is known by. -/
def pattern : Reader := fun ts => do
  let rest ← many (oneOf [mark '&', word "mut", word "ref"]) ts.length ts
  oneOf [name, word "_", group '('] rest

/-- Reads a parameter that stands for the value that a method belongs to. -/
def selfParameter : Reader := fun ts => do
  let rest ← optional (both (mark '&') (optional lifetime)) ts
  let rest ← both (optional (word "mut")) (word "self") rest
  optional (both (mark ':') anyType) rest

def parameter : Reader :=
  both attributes (oneOf [selfParameter, both pattern (both (mark ':') anyType)])

def functionItem : Reader := fun ts => do
  let rest ← both name genericParameters ts
  let rest ← both (mark '(') (fun ts => listed parameter ')' ts.length ts) rest
  let rest ← result (steps rest) rest
  both conditions (oneOf [group '\x7b', mark ';']) rest

def constantItem : Reader := fun ts => do
  let rest ← both (oneOf [name, word "_"]) (both (mark ':') anyType) ts
  if fits (mark '=') rest then value rest.length rest else mark ';' rest

/-- Reads a type's further name behind its keyword. -/
def aliasItem : Reader := fun ts => do
  let rest ← both name genericParameters ts
  let rest ← optional (both (mark ':') anyBounds) rest
  both (optional (both (mark '=') anyType)) (both conditions (mark ';')) rest

def importTree : Nat → Reader
  | 0, _ => none
  | n + 1, ts => do
    let rest ← optional colons ts
    match rest with
    | .mark '*' :: rest => some rest
    | .mark '\x7b' :: rest => listed (importTree n) '\x7d' rest.length rest
    | rest => do
      let rest ← segmentName rest
      if fits colons rest then importTree n rest
      else optional (both (word "as") (oneOf [name, word "_"])) rest

def importItem : Reader := fun ts => both (importTree ts.length) (mark ';') ts

/-- Reads the call of a macro that stands for declarations. -/
def macroItem : Reader := fun ts => do
  let rest ← path (steps ts) ts
  let rest ← both (mark '!') (optional name) rest
  oneOf [group '\x7b', both (oneOf [group '(', group '[']) (mark ';')] rest

/-- Reads what may stand before the keyword of a function. -/
def functionModifiers : Reader :=
  both (optional (word "const")) <| both (optional (word "async")) <|
    both (optional (word "unsafe")) <| optional (both (word "extern") (optional literal))

mutual

def item : Nat → Reader
  | 0, _ => none
  | n + 1, ts => do
    let rest ← both attributes visibility ts
    oneOf [
      both (word "use") importItem,
      both (word "struct") structItem,
      both (word "enum") enumItem,
      both functionModifiers (both (word "fn") functionItem),
      both (oneOf [word "const", both (word "static") (optional (word "mut"))]) constantItem,
      both (word "type") aliasItem,
      both (word "impl") (implementation n),
      both (word "mod") (both name (oneOf [mark ';', both (mark '\x7b') (itemsUntilClosed n)])),
      macroItem] rest

/-- Reads the declarations up to a closing brace. -/
def itemsUntilClosed : Nat → Reader
  | 0, _ => none
  | n + 1, ts =>
    match mark '\x7d' ts with
    | some rest => some rest
    | none => do itemsUntilClosed n (← item n ts)

def implementation : Nat → Reader
  | 0, _ => none
  | n + 1, ts => do
    let rest ← genericParameters ts
    let rest ← both (optional (mark '!')) anyType rest
    let rest ← both (optional (both (word "for") anyType)) conditions rest
    both (mark '\x7b') (itemsUntilClosed n) rest

end

/-- Whether tokens are declarations and nothing else. -/
def areItems : Nat → List Token → Bool
  | _, [] => true
  | 0, _ => false
  | n + 1, ts =>
    match item (steps ts) ts with
    | some rest => areItems n rest
    | none => false

/-- Reads the attributes of a whole unit. -/
def unitAttributes : Reader := fun ts =>
  many (both (marks ['#', '!']) (group '[')) ts.length ts

/-- Whether a text is a unit of code. -/
def isUnit (code : String) : Bool :=
  match tokens code.toList with
  | none => false
  | some ts =>
    match unitAttributes ts with
    | none => false
    | some rest => areItems rest.length rest

end ApiForge.Code
