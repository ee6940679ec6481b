import Playbook.Yaml.Lexer
import Playbook.Yaml.Resolve
/-!
# YAML nodes

The tree that the tokens of a document stand for. Every node has a tag that says what kind of value it is. Nodes
that an anchor marks stand in a table of their own, so that a reference may lead back to a node around it. The
tokens are taken one by one: what is wrong with the text behind them matters only when they do not suffice.
-/

namespace Playbook.Yaml

inductive Node where
  | scalar (tag : Tag) (text : WideString)
  | sequence (tag : Tag) (items : List Node)
  | mapping (tag : Tag) (pairs : List (Node × Node))
  /-- The node with this mark. -/
  | reference (name : String)

namespace Node

def empty : Node := scalar .null []

end Node

structure Document where
  root : Node
  /-- The nodes with a mark. None of them is a reference. -/
  marked : List (String × Node)
  /-- How long the text is. -/
  length : Nat

/-- What is left of the tokens, the nodes marked so far, and what the handles of tags mean. -/
structure Reading where
  tokens : List Token
  /-- What is wrong behind the tokens. -/
  fault : Option Fault
  anchors : List (String × Node)
  handles : List (String × String)

abbrev Reader (α : Type) := StateT Reading (Except Fault) α

namespace Reader

def fail {α : Type} : Reader α := throw .malformed

/-- The next token, or none at the end of the text. -/
def next? : Reader (Option Token) := do
  let r ← get
  match r.tokens, r.fault with
  | t :: _, _ => return some t
  | [], some f => throw f
  | [], none => return none

def advance : Reader Unit := modify fun r => { r with tokens := r.tokens.drop 1 }

/-- Whether one of the tokens is next; the end of the text is none of them. -/
def sees (ts : List Token) : Reader Bool := do return (← next?).any ts.contains

def expect (t : Token) : Reader Unit := do
  if ← sees [t] then advance else fail

/-! ### Properties -/

/-- The anchor and the tag in front of a node, in either order. -/
structure Properties where
  anchor : Option String
  tag : Option (Option String × String)

def property (p : Properties) : Reader Properties := do
  match ← next? with
  | some (.anchor name) =>
    if p.anchor.isSome then return p
    advance
    return { p with anchor := some name }
  | some (.tag handle suffix) =>
    if p.tag.isSome then return p
    advance
    return { p with tag := some (handle, suffix) }
  | _ => return p

/-- What a handle means has to be known. -/
def checkHandle (p : Properties) : Reader Properties := do
  match p.tag with
  | some (some h, suffix) =>
    match (← get).handles.lookup h with
    | some meaning => return { p with tag := some (none, meaning ++ suffix) }
    | none => fail
  | _ => return p

def properties : Reader Properties := do checkHandle (← property (← property ⟨none, none⟩))

def Properties.uri? (p : Properties) : Option String := p.tag.map (·.2)

/-- Marks a node that is about to be read; no other node may have the same mark. -/
def mark (p : Properties) (n : Node) : Reader Unit :=
  match p.anchor with
  | none => return
  | some name => do
    if (← get).anchors.any (·.1 = name) then fail
    modify fun r => { r with anchors := (name, n) :: r.anchors }

/-- The node is complete. One with a mark is kept in the table. -/
def complete (p : Properties) (n : Node) : Reader Node :=
  match p.anchor with
  | none => return n
  | some name => do
    modify fun r => { r with anchors := r.anchors.map fun (k, old) => if k = name then (k, n) else (k, old) }
    return .reference name

/-- A single exclamation mark asks for the tag that a node has by itself. -/
def tagOr (p : Properties) (own : Tag) : Tag :=
  match p.uri? with
  | none | some "!" => own
  | some uri => .ofUri uri

/-- A quoted text without a tag is a text whatever it says. -/
def scalarTag (p : Properties) (text : WideString) (isPlain : Bool) : Tag :=
  match p.uri? with
  | none => if isPlain then .ofText (text.plain) else .text
  | some "!" => .ofText (text.plain)
  | some uri => .ofUri uri

/-! ### Nodes -/

mutual

/-- A node; `isBlock` outside brackets, `isLoose` where the entries of a list need no indentation. -/
def node (isBlock isLoose : Bool) : (fuel : Nat) → Reader Node
  | 0 => fail
  | fuel + 1 => do
    if let some (.reference name) ← next? then
      advance
      if (← get).anchors.any (·.1 = name) then return .reference name else fail
    else
      let p ← properties
      match ← next? with
      | some (.scalar text isPlain) =>
        advance
        let n := Node.scalar (scalarTag p text isPlain) text
        mark p n
        complete p n
      | some .openList => advance; sequenceOf p (flowItems true fuel)
      | some .openMap => advance; mappingOf p (flowPairs true fuel)
      | some .sequenceStart => if isBlock then advance; sequenceOf p (blockItems fuel) else bare p
      | some .mappingStart => if isBlock then advance; mappingOf p (blockPairs fuel) else bare p
      | some .entry => if isLoose then sequenceOf p (looseItems fuel) else bare p
      | _ => bare p
where
  /-- Properties without a node belong to an empty one. -/
  bare (p : Properties) : Reader Node := do
    if p.anchor.isNone && p.tag.isNone then fail
    let n := Node.scalar (scalarTag p [] true) []
    mark p n
    complete p n
  sequenceOf (p : Properties) (read : Reader (List Node)) : Reader Node := do
    mark p (.sequence (tagOr p .list) [])
    complete p (.sequence (tagOr p .list) (← read))
  mappingOf (p : Properties) (read : Reader (List (Node × Node))) : Reader Node := do
    mark p (.mapping (tagOr p .map) [])
    complete p (.mapping (tagOr p .map) (← read))

/-- The node that is next, or an empty one in front of these tokens. -/
def nodeBefore (stops : List Token) (isBlock isLoose : Bool) : (fuel : Nat) → Reader Node
  | 0 => fail
  | fuel + 1 => do if ← sees stops then return .empty else node isBlock isLoose fuel

/-- What stands behind a colon, if there is one. -/
def valueBefore (stops : List Token) (isBlock isLoose : Bool) : (fuel : Nat) → Reader Node
  | 0 => fail
  | fuel + 1 => do
    if ← sees [.value] then
      advance
      nodeBefore stops isBlock isLoose fuel
    else return .empty

def blockItems : (fuel : Nat) → Reader (List Node)
  | 0 => fail
  | fuel + 1 => do
    if ← sees [.entry] then
      advance
      let n ← nodeBefore [.entry, .blockEnd] true false fuel
      return n :: (← blockItems fuel)
    else
      expect .blockEnd
      return []

def looseItems : (fuel : Nat) → Reader (List Node)
  | 0 => fail
  | fuel + 1 => do
    if ← sees [.entry] then
      advance
      let n ← nodeBefore [.entry, .key, .value, .blockEnd] true false fuel
      return n :: (← looseItems fuel)
    else return []

def blockPairs : (fuel : Nat) → Reader (List (Node × Node))
  | 0 => fail
  | fuel + 1 => do
    if ← sees [.key] then
      advance
      let k ← nodeBefore [.key, .value, .blockEnd] true true fuel
      let v ← valueBefore [.key, .value, .blockEnd] true true fuel
      return (k, v) :: (← blockPairs fuel)
    else
      expect .blockEnd
      return []

/-- A list in brackets. A pair in it is a mapping of its own. -/
def flowItems (isFirst : Bool) : (fuel : Nat) → Reader (List Node)
  | 0 => fail
  | fuel + 1 => do
    if ← sees [.closeList] then
      advance
      return []
    if !isFirst then expect .comma
    if ← sees [.key] then
      advance
      let k ← nodeBefore [.value, .comma, .closeList] false false fuel
      let v ← valueBefore [.comma, .closeList] false false fuel
      return .mapping .map [(k, v)] :: (← flowItems false fuel)
    else if ← sees [.closeList] then
      advance
      return []
    else
      let n ← node false false fuel
      return n :: (← flowItems false fuel)

/-- A mapping in braces. A node without a colon is a key without a value. -/
def flowPairs (isFirst : Bool) : (fuel : Nat) → Reader (List (Node × Node))
  | 0 => fail
  | fuel + 1 => do
    if ← sees [.closeMap] then
      advance
      return []
    if !isFirst then expect .comma
    if ← sees [.key] then
      advance
      let k ← nodeBefore [.value, .comma, .closeMap] false false fuel
      let v ← valueBefore [.comma, .closeMap] false false fuel
      return (k, v) :: (← flowPairs false fuel)
    else if ← sees [.closeMap] then
      advance
      return []
    else
      let k ← node false false fuel
      return (k, .empty) :: (← flowPairs false fuel)

end

/-! ### Documents -/

def standardHandles : List (String × String) := [("!", "!"), ("!!", Tag.standardUri)]

/-- The directives in front of a document. Only texts of the first version can be read. -/
def directives : (fuel : Nat) → (hasVersion : Bool) → (own : List (String × String)) → Reader (List (String × String))
  | 0, _, own => return own
  | fuel + 1, hasVersion, own => do
    match ← next? with
    | some (.version major) =>
      advance
      if hasVersion || major ≠ 1 then fail
      directives fuel true own
    | some (.handle name meaning) =>
      advance
      if own.any (·.1 = name) then fail
      directives fuel hasVersion (own ++ [(name, meaning)])
    | some .reserved =>
      advance
      directives fuel hasVersion own
    | _ => return own

def startsExplicitly : Option Token → Bool
  | some (.version _) | some (.handle ..) | some .reserved | some .documentStart => true
  | _ => false

def endsDocument (t : Option Token) : Bool := t.isNone || t == some .documentEnd || startsExplicitly t

/-- The only document of the text, if there is one. -/
def document (fuel : Nat) : Reader (Option Node) := do
  let first ← next?
  if first.isNone then return none
  if startsExplicitly first then
    let own ← directives fuel false []
    modify fun r => { r with handles := own ++ standardHandles }
    expect .documentStart
  let n ← if startsExplicitly first && endsDocument (← next?) then pure Node.empty else node true false fuel
  modify fun r => { r with tokens := r.tokens.dropWhile (· == .documentEnd) }
  if (← next?).isSome then fail
  return some n

end Reader

/-- The document of a whole text. -/
def compose (cs : List Char) : Except Fault (Option Document) := do
  let ts := tokens cs
  let (n, r) ← (Reader.document (4 * ts.known.length + 8)).run ⟨ts.known, ts.fault, [], Reader.standardHandles⟩
  return n.map (⟨·, r.anchors, cs.length⟩)

end Playbook.Yaml
