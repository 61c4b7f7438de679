import PackageGate.Yaml.Graph
import PackageGate.Yaml.Scalar

/-!
# The value of a document

The nodes of a graph are given their values in rounds: the root first, then what it holds, then
what that holds. So of several nodes without a value, the one nearest to the root is reported, and
among equally near ones the first. Each node is visited once, which also ends the visit of a
collection that contains itself.

A mapping with merge keys takes over the entries of the mappings that the keys lead to. Its own
entries come behind them and win. Merging changes the graph, so an entry that has been taken over
stays where it was taken to.
-/

namespace PackageGate.Yaml

/-- What is known of a node's value: a scalar by itself, a collection by the nodes in it. -/
inductive Cell where
  | atom (v : Value)
  | list (items : List NodeId)
  | dict (entries : List (Value × NodeId))
  | set (keys : List Value)
  | pairs (items : List (NodeId × NodeId))
deriving Repr, Inhabited

/-- The state of the visit: the graph, the cells known so far, and the collections whose entries
wait to be visited, in order. -/
structure Visit where
  graph : Graph
  cells : Array (Option Cell)
  waiting : List NodeId

namespace Visit

/-- A mistake at a node. -/
def malformed (problem : Problem) (place : Mark) : Stop := problemAt problem place

/-! ## Merging -/

/-- The entries of a mapping. -/
def entriesOf (g : Graph) (n : NodeId) : List (NodeId × NodeId) :=
  match (g.node n).content with
  | .mapping entries => entries
  | _ => []

/-- The first entry, from a position on, whose key is special, with its position. -/
def firstSpecial (g : Graph) (position : Nat) (entries : List (NodeId × NodeId)) :
    Option (Nat × NodeId × NodeId) :=
  match (entries.drop position).findIdx? fun e =>
      (g.node e.1).tag = .merge || (g.node e.1).tag = .value with
  | none => none
  | some i => (entries[position + i]?).map fun e => (position + i, e.1, e.2)

mutual

/-- Resolves the merge keys of a mapping, from a position among its entries on, where `taken` are
the entries taken over so far. The fuel bounds the number of special keys met. -/
def flattenFrom : (fuel : Nat) → Graph → (n : NodeId) → (position : Nat) →
    (taken : List (NodeId × NodeId)) → Except Stop Graph
  | 0, _, _, _, _ => .error .tooDeep
  | fuel + 1, g, n, position, taken =>
    let entries := entriesOf g n
    match firstSpecial g position entries with
    | none =>
      .ok (if taken.isEmpty then g else g.setContent n (.mapping (taken ++ entries)))
    | some (i, key, value) =>
      if (g.node key).tag = .value then
        flattenFrom fuel (g.setTag key .str) n (i + 1) taken
      else do
        let g := g.setContent n (.mapping (entries.eraseIdx i))
        let target := g.node value
        match target.content with
        | .mapping _ =>
          let g ← flattenFrom fuel g value 0 []
          flattenFrom fuel g n i (taken ++ entriesOf g value)
        | .sequence items =>
          let (g, groups) ← flattenEach fuel g (g.node n).start items
          flattenFrom fuel g n i (taken ++ groups.reverse.flatten)
        | content =>
          .error (problemIn .mappingValue (g.node n).start (.notMergeable content.kind)
            target.start)

/-- Resolves the merge keys of each of the listed mappings, and gives the entries of each. -/
def flattenEach : (fuel : Nat) → Graph → (owner : Mark) → List NodeId →
    Except Stop (Graph × List (List (NodeId × NodeId)))
  | 0, _, _, _ => .error .tooDeep
  | _, g, _, [] => .ok (g, [])
  | fuel + 1, g, owner, i :: rest =>
    let item := g.node i
    match item.content with
    | .mapping _ => do
      let g ← flattenFrom fuel g i 0 []
      let entries := entriesOf g i
      let (g, groups) ← flattenEach fuel g owner rest
      .ok (g, entries :: groups)
    | content => .error (problemIn .mappingValue owner (.notMergeableItem content.kind) item.start)

end

/-- How many entries and items the collections of a graph have. -/
def weight (g : Graph) : Nat :=
  g.nodes.foldl (fun n node => match node.content with
    | .scalar _ => n + 1
    | .sequence items => n + 1 + items.length
    | .mapping entries => n + 1 + entries.length) 0

/-- Resolves the merge keys of a mapping, if it has any. -/
def flatten (g : Graph) (n : NodeId) : Except Stop Graph :=
  if (firstSpecial g 0 (entriesOf g n)).isNone then .ok g
  else flattenFrom (2 * weight g + 2) g n 0 []

/-! ## Scalars -/

/-- The text of a node that has to be a scalar. A mapping stands for the value of its default key,
if it has one. -/
def scalarText (g : Graph) : (fuel : Nat) → NodeId → Except Stop String
  | 0, _ => .error .tooDeep
  | fuel + 1, n =>
    let node := g.node n
    match node.content with
    | .scalar text => .ok text
    | .mapping entries =>
      match entries.find? fun e => (g.node e.1).tag = .value with
      | some e => scalarText g fuel e.2
      | none => .error (malformed (.notScalarNode .mapping) node.start)
    | content => .error (malformed (.notScalarNode content.kind) node.start)

/-- The value of a node with the tag of a scalar. Where it is no number, it is told from others by
the node. -/
def scalarValue (g : Graph) (n : NodeId) : Except Stop Value := do
  let node := g.node n
  let s ← scalarText g (g.nodes.size + 1) n
  let text := s.toList
  match node.tag with
  | .null => .ok .null
  | .bool => (truthValue text).map .bool
  | .int => (wholeValue text).map .int
  | .float => (fractionValue (n + 1) text).map .float
  | .binary =>
    match bytesValue text with
    | .ok data => .ok (.bytes data)
    | .error problem => .error (malformed problem node.start)
  | .timestamp =>
    match node.content with
    | .scalar _ => momentValue text
    | _ => .error (.fault .momentOfMapping)
  | _ => .ok (.str s)

/-! ## Visiting -/

/-- Visits a node: a scalar gets its value, a collection is put among those that wait. -/
def enter (v : Visit) (n : NodeId) : Except Stop Visit :=
  match v.cells[n]? with
  | some (some _) => .ok v
  | _ =>
    let node := v.graph.node n
    let wait (cell : Cell) : Visit :=
      { v with cells := v.cells.setIfInBounds n (some cell), waiting := v.waiting ++ [n] }
    match node.tag with
    | .seq => .ok (wait (.list []))
    | .map => .ok (wait (.dict []))
    | .set => .ok (wait (.set []))
    | .omap | .pairs => .ok (wait (.pairs []))
    | .merge | .value | .other _ => .error (malformed (.unknownTag node.tag.name) node.start)
    | _ => do
      let value ← scalarValue v.graph n
      .ok { v with cells := v.cells.setIfInBounds n (some (.atom value)) }

/-- Visits nodes in order. -/
def enterAll (v : Visit) (nodes : List NodeId) : Except Stop Visit := nodes.foldlM enter v

/-- Sets what is known of a node. -/
def settle (v : Visit) (n : NodeId) (cell : Cell) : Visit :=
  { v with cells := v.cells.setIfInBounds n (some cell) }

/-- The key that a node stands for, if it can be one. -/
def key? (v : Visit) (n : NodeId) : Option Value :=
  match v.cells[n]? with
  | some (some (.atom value)) => some value
  | _ => none

/-- The entries with one key set, in the manner of `Value.putEntry`. -/
def putNode (key : Value) (n : NodeId) : List (Value × NodeId) → List (Value × NodeId)
  | [] => [(key, n)]
  | (k, m) :: rest =>
    if Value.sameKey k key then (k, n) :: rest else (k, m) :: putNode key n rest

/-- Visits the entries of a mapping. -/
def enterEntries (owner : Mark) : List (NodeId × NodeId) → Visit → List (Value × NodeId) →
    Except Stop (Visit × List (Value × NodeId))
  | [], v, done => .ok (v, done)
  | (key, value) :: rest, v, done => do
    let v ← v.enter key
    match v.key? key with
    | none => .error (problemIn .mappingValue owner .unhashableKey (v.graph.node key).start)
    | some k =>
      let v ← v.enter value
      enterEntries owner rest v (putNode k value done)

/-- Resolves the merge keys of a mapping and visits its entries. -/
def enterMapping (v : Visit) (n : NodeId) : Except Stop (Visit × List (Value × NodeId)) := do
  let node := v.graph.node n
  match node.content with
  | .mapping _ =>
    let g ← flatten v.graph n
    enterEntries node.start (entriesOf g n) { v with graph := g } []
  | content => .error (malformed (.notMappingNode content.kind) node.start)

/-- Visits the items of an ordered mapping or of a list of pairs: mappings with one entry each. -/
def enterPairs (activity : Activity) (owner : Mark) : List NodeId → Visit →
    List (NodeId × NodeId) → Except Stop (Visit × List (NodeId × NodeId))
  | [], v, done => .ok (v, done.reverse)
  | i :: rest, v, done =>
    let item := v.graph.node i
    match item.content with
    | .mapping [(key, value)] => do
      let v ← v.enter key
      let v ← v.enter value
      enterPairs activity owner rest v ((key, value) :: done)
    | .mapping entries =>
      .error (problemIn activity owner (.notSingleItem entries.length) item.start)
    | content => .error (problemIn activity owner (.notSingleMapping content.kind) item.start)

/-- Visits what a collection holds. -/
def enterCollection (v : Visit) (n : NodeId) : Except Stop Visit := do
  let node := v.graph.node n
  match node.tag with
  | .seq =>
    match node.content with
    | .sequence items =>
      let v ← v.enterAll items
      .ok (v.settle n (.list items))
    | content => .error (malformed (.notSequenceNode content.kind) node.start)
  | .map =>
    let (v, entries) ← v.enterMapping n
    .ok (v.settle n (.dict entries))
  | .set =>
    let (v, entries) ← v.enterMapping n
    .ok (v.settle n (.set (entries.map (·.1))))
  | _ =>
    let activity := if node.tag = .omap then .orderedMap else .pairs
    match node.content with
    | .sequence items =>
      let (v, pairs) ← enterPairs activity node.start items v []
      .ok (v.settle n (.pairs pairs))
    | content => .error (problemIn activity node.start (.notSequence content.kind) node.start)

/-- Visits the waiting collections until none is left; no more wait than the graph has nodes. -/
def run : (fuel : Nat) → Visit → Except Stop Visit
  | 0, v => .ok v
  | fuel + 1, v =>
    match v.waiting with
    | [] => .ok v
    | n :: rest => do
      let v ← enterCollection { v with waiting := rest } n
      run fuel v

end Visit

/-! ## The value -/

/-- A document's value, with the table of its collections if it is shared. -/
structure Document where
  root : Value
  cells : Cells
deriving Repr, Inhabited

/-- The value of a cell, where `child` tells the values of nodes. -/
def Cell.value (child : NodeId → Value) : Cell → Value
  | .atom v => v
  | .list items => .list (items.map child)
  | .dict entries => .dict (entries.map fun e => (e.1, child e.2))
  | .set keys => .set keys
  | .pairs items => .list (items.map fun e => .pair (child e.1) (child e.2))

/-- The value of a node that is a scalar. -/
def atom? (cells : Array (Option Cell)) (n : NodeId) : Option Value :=
  match cells[n]? with
  | some (some (.atom v)) => some v
  | _ => none

/-- The values of a shared document: each collection refers to the others by their numbers. -/
def sharedCells (cells : Array (Option Cell)) : Cells :=
  let child (n : NodeId) : Value := (atom? cells n).getD (.ref n)
  cells.map fun cell => match cell with
    | some cell => cell.value child
    | none => .null

/-- The values of the last nodes, in order, where `n` is the number of the first of them. In a
document without shared collections a collection begins before those it holds, so that their values
are known; a scalar may stand anywhere. -/
def treeCells (cells : Array (Option Cell)) : (last : List (Option Cell)) → (n : NodeId) →
    List Value
  | [], _ => []
  | cell :: rest, n =>
    let later := treeCells cells rest (n + 1)
    let child (m : NodeId) : Value :=
      ((atom? cells m).orElse fun _ => (later.drop (m - (n + 1))).head?).getD .null
    (match cell with
      | some cell => cell.value child
      | none => .null) :: later

/-- The value of a shared document's root. -/
def sharedRoot (cells : Array (Option Cell)) : Value := (atom? cells 0).getD (.ref 0)

/-- The value of the root of a document that is a tree. -/
def treeRoot (cells : Array (Option Cell)) : Value :=
  (treeCells cells cells.toList 0).head?.getD .null

/-- The document that a graph denotes. -/
def Document.ofGraph (g : Graph) : Except Stop Document := do
  let entered ← Visit.enter ⟨g, Array.replicate g.nodes.size none, []⟩ 0
  let v ← Visit.run (g.nodes.size + 1) entered
  if g.shared then .ok ⟨sharedRoot v.cells, sharedCells v.cells⟩
  else .ok ⟨treeRoot v.cells, #[]⟩

end PackageGate.Yaml
