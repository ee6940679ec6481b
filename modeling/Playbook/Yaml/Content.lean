import Playbook.Yaml.Node
import Playbook.Yaml.Value
/-!
# The content of YAML documents

The value of a document, and the entries of one that is a mapping. Mappings take up the pairs of other mappings
that are merged into them; those come first, so that a later pair of the same key goes before them. What is inside
a collection has to stand for values too, although only its kind is kept: the nodes are built level by level, each
one once, and the first one that stands for no value decides what is wrong.
-/

namespace Playbook.Yaml

namespace Document

/-- The node itself, or the one that a reference leads to. -/
def node (d : Document) : Node → Node
  | .reference name => (d.marked.lookup name).getD .empty
  | n => n

def tag (d : Document) (n : Node) : Tag :=
  match d.node n with
  | .scalar tag _ | .sequence tag _ | .mapping tag _ => tag
  | .reference _ => .null

/-! ### Texts -/

/-- The text of a scalar; a mapping lends the text of its default. -/
def text (d : Document) : (fuel : Nat) → Node → Except Fault WideString
  | 0, _ => .error .malformed
  | fuel + 1, n =>
    match d.node n with
    | .scalar _ text => .ok text
    | .mapping _ pairs =>
      match pairs.find? fun (k, _) => d.tag k = .value with
      | some (_, v) => d.text fuel v
      | none => .error .malformed
    | _ => .error .malformed

/-! ### Merging -/

/-- The pairs of a mapping after those of the mappings that it merges. What leads back to something that is being
merged adds nothing. -/
def mergedPairs (d : Document) : (fuel : Nat) → (merging : List String) → List (Node × Node) →
    Except Fault (List (Node × Node))
  | 0, _, _ => .error .malformed
  | fuel + 1, merging, pairs => do
    let around (n : Node) (merging : List String) : List String :=
      match n with
      | .reference name => name :: merging
      | _ => merging
    let isOpen (n : Node) : Bool :=
      match n with
      | .reference name => merging.contains name
      | _ => false
    let pairsOf (merging : List String) (n : Node) : Except Fault (List (Node × Node)) :=
      match d.node n with
      | .mapping _ inner => if isOpen n then .ok [] else d.mergedPairs fuel (around n merging) inner
      | _ => .error .malformed
    let parts ← pairs.mapM fun (k, v) =>
      if d.tag k ≠ .merge then .ok (([], [(k, v)]) : List (Node × Node) × List (Node × Node))
      else match d.node v with
        | .sequence _ items => do
          let merged ← if isOpen v then pure [] else items.mapM (pairsOf (around v merging))
          return (merged.reverse.flatten, [])
        | _ => do return (← pairsOf merging v, [])
    return parts.flatMap (·.1) ++ parts.flatMap (·.2)

/-! ### Building -/

/-- What the nodes with a mark have come to, and the collections whose parts are not built, the last one first. -/
structure Progress where
  built : List (String × Value)
  waiting : List Node

abbrev Builder (α : Type) := StateT Progress (Except Fault) α

/-- More than the depth of any node of the text. -/
def fuel (d : Document) : Nat := 3 * d.length + 8

/-- The value of a node whose tag asks for a scalar. -/
def scalarValue (d : Document) (tag : Tag) (n : Node) : Except Fault Value := do
  let wide := d.text d.fuel n
  let text := wide.map (·.plain)
  match tag with
  | .null =>
    let _ ← text
    return .null
  | .bool => return .bool (← Value.boolOf (← text))
  | .int => return .int (← Value.intOf (← text))
  | .float => return .float (← Value.floatOf (← text))
  | .text => return .text (← wide)
  | .moment =>
    let text ← text
    match n with
    | .mapping .. => throw .momentOfMapping
    | _ => Value.momentOf text
  | .bytes => Value.bytesOf (← text)
  | _ => throw .malformed

def later (n : Node) (v : Value) : Builder Value := do
  modify fun p => { p with waiting := n :: p.waiting }
  return v

/-- The value of a node that is taken to have a tag; the parts of a collection wait. -/
def ownValue (d : Document) (tag : Tag) (n : Node) : Builder Value :=
  match tag with
  | .list | .pairs | .orderedPairs => later n .list
  | .set => later n .set
  | .map => later n .map
  | tag => d.scalarValue tag n

/-- The value of a node. One with a mark has the value that it was first built to. -/
def valueAs (d : Document) (tag : Tag) (n : Node) : Builder Value := do
  match n with
  | .reference name =>
    match (← get).built.lookup name with
    | some v => return v
    | none =>
      let v ← d.ownValue tag (d.node n)
      modify fun p => { p with built := (name, v) :: p.built }
      return v
  | n => d.ownValue tag n

def value (d : Document) (n : Node) : Builder Value := d.valueAs (d.tag n) n

def keyTag (d : Document) (k : Node) : Tag := if d.tag k = .value then .text else d.tag k

/-- A default sign that is a key is a plain text, and so is every reference to it from then on. -/
def settleSigns (d : Document) (pairs : List (Node × Node)) : Builder Unit :=
  (pairs.filter fun (k, _) => d.tag k = .value).forM fun (k, _) => do
    let _ ← d.valueAs .text k

def entry (d : Document) (pair : Node × Node) : Builder (Value × Value) := do
  let k ← d.valueAs (d.keyTag pair.1) pair.1
  if !k.isKey then throw .malformed
  return (k, ← d.value pair.2)

/-- Builds the parts of a collection, and gives the entries of a mapping. -/
def fill (d : Document) (n : Node) : Builder (List (Value × Value)) := do
  match n with
  | .sequence .list items =>
    for item in items do
      let _ ← d.value item
    return []
  | .sequence .pairs items | .sequence .orderedPairs items =>
    for item in items do
      match d.node item with
      | .mapping _ [(k, v)] =>
        let _ ← d.value k
        let _ ← d.value v
      | _ => throw .malformed
    return []
  | .mapping .map pairs | .mapping .set pairs =>
    let pairs ← d.mergedPairs d.fuel [] pairs
    d.settleSigns pairs
    pairs.mapM d.entry
  | _ => throw .malformed

/-- Takes the collections that wait, the first one first. -/
def takeWaiting : Builder (List Node) := do
  let nodes := (← get).waiting.reverse
  modify fun p => { p with waiting := [] }
  return nodes

def fillLevels (d : Document) : (fuel : Nat) → Builder Unit
  | 0 => return
  | fuel + 1 => do
    let level ← takeWaiting
    if level.isEmpty then return
    for n in level do
      let _ ← d.fill n
    d.fillLevels fuel

/-- What stands in a document: its value, and its entries if it is a mapping. -/
structure Content where
  value : Value
  entries : List (Value × Value)

def build (d : Document) : Builder Content := do
  let v ← d.value d.root
  let entries ← (← takeWaiting).flatMapM d.fill
  d.fillLevels d.fuel
  return ⟨v, entries⟩

def content (d : Document) : Except Fault Content := do return (← d.build.run ⟨[], []⟩).1

end Document

/-- The content of a text; an empty one is nothing. -/
def read (cs : List Char) : Except Fault Document.Content := do
  match ← compose cs with
  | none => return ⟨.null, []⟩
  | some d => d.content

end Playbook.Yaml
