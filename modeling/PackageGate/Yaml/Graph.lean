import PackageGate.Yaml.Event
import PackageGate.Yaml.Tag

/-!
# The nodes of a document

The events of a document build a graph. Nodes are numbered in the order in which they begin. An
anchor names the node it stands at from its beginning on, so that an alias may lead back into a
collection that is still open; an alias is no node of its own.

The graph is built in one pass over the events, with the stack of the open collections. Collections
nested beyond a limit stop the reading.
-/

namespace PackageGate.Yaml

/-- The number of a node. -/
abbrev NodeId := Nat

/-- What a node holds. -/
inductive Content where
  | scalar (text : String)
  | sequence (items : List NodeId)
  | mapping (entries : List (NodeId × NodeId))
deriving Repr, Inhabited

/-- The kind of a content. -/
def Content.kind : Content → NodeKind
  | .scalar _ => .scalar
  | .sequence _ => .sequence
  | .mapping _ => .mapping

/-- A node: its tag, its place and its content. -/
structure Node where
  tag : Tag
  start : Mark
  content : Content
deriving Repr

instance : Inhabited Node := ⟨⟨.null, ⟨0, 0, 0⟩, .scalar ""⟩⟩

/-- The nodes of a document, the root among them first. The graph is *shared* if an alias leads to
a collection. -/
structure Graph where
  nodes : Array Node
  shared : Bool
deriving Inhabited

namespace Graph

/-- The node with a number. -/
def node (g : Graph) (n : NodeId) : Node := (g.nodes[n]?).getD default

/-- Changes what a node holds. -/
def setContent (g : Graph) (n : NodeId) (content : Content) : Graph :=
  { g with nodes := g.nodes.modify n ({ · with content := content }) }

/-- Changes the tag of a node. -/
def setTag (g : Graph) (n : NodeId) (tag : Tag) : Graph :=
  { g with nodes := g.nodes.modify n ({ · with tag := tag }) }

end Graph

/-- The nesting of collections that is still read. -/
def depthLimit : Nat := 480

/-- An open collection with what it holds so far, the last first. A mapping may have a key that
waits for its value. -/
inductive OpenNode where
  | sequence (id : NodeId) (items : List NodeId)
  | mapping (id : NodeId) (entries : List (NodeId × NodeId)) (key : Option NodeId)
deriving Repr

/-- The state of building a graph. -/
structure Builder where
  graph : Graph
  anchors : List (String × NodeId)
  openNodes : List OpenNode
  complete : Bool

namespace Builder

/-- Nothing built yet. -/
def empty : Builder := ⟨⟨#[], false⟩, [], [], false⟩

/-- Puts a node into the innermost open collection. -/
def place (b : Builder) (n : NodeId) : Builder :=
  match b.openNodes with
  | [] => b
  | .sequence id items :: rest => { b with openNodes := .sequence id (n :: items) :: rest }
  | .mapping id entries none :: rest =>
    { b with openNodes := .mapping id entries (some n) :: rest }
  | .mapping id entries (some key) :: rest =>
    { b with openNodes := .mapping id ((key, n) :: entries) none :: rest }

/-- Adds a node with its anchor. An anchor names one node only. -/
def add (b : Builder) (head : NodeHead) (tag : Tag) (content : Content) : Except Stop Builder :=
  let id := b.graph.nodes.size
  let graph := { b.graph with nodes := b.graph.nodes.push ⟨tag, head.start, content⟩ }
  match head.anchor with
  | none => .ok { b with graph := graph }
  | some name =>
    match b.anchors.lookup name with
    | some first =>
      .error (problemIn (.firstAnchor name) (b.graph.node first).start .secondAnchor head.start)
    | none => .ok { b with graph := graph, anchors := (name, id) :: b.anchors }

/-- The tag of a collection. -/
def collectionTag (common : Tag) (tag : Option String) : Tag :=
  match tag with
  | none | some "!" => common
  | some name => .ofName name

/-- The tag of a scalar. -/
def scalarTag (text : String) (isOpen : Bool) (tag : Option String) : Tag :=
  match tag with
  | none | some "!" => if isOpen then .ofPlain text.toList else .str
  | some name => .ofName name

/-- Opens a collection, unless too many are open. -/
def openNode (b : Builder) (o : OpenNode) : Except Stop Builder :=
  if depthLimit ≤ b.openNodes.length then .error .tooDeep
  else .ok { b with openNodes := o :: b.openNodes }

/-- What one event adds. The end of the stream is not among the events that add something. -/
def step (b : Builder) : Event → Except Stop Builder
  | .documentStart start =>
    if b.complete then
      .error (problemIn .singleDocument (b.graph.node 0).start .secondDocument start)
    else .ok b
  | .documentEnd => .ok { b with anchors := [], complete := true }
  | .streamEnd => .ok b
  | .alias name start =>
    match b.anchors.lookup name with
    | none => .error (problemAt (.unknownAlias name) start)
    | some n =>
      let isShared := match (b.graph.node n).content with
        | .scalar _ => b.graph.shared
        | _ => true
      .ok ({ b with graph := { b.graph with shared := isShared } }.place n)
  | .scalar head text isOpen => do
    let id := b.graph.nodes.size
    let b ← b.add head (scalarTag text isOpen head.tag) (.scalar text)
    .ok (b.place id)
  | .sequenceStart head => do
    let id := b.graph.nodes.size
    let b ← b.add head (collectionTag .seq head.tag) (.sequence [])
    b.openNode (.sequence id [])
  | .mappingStart head => do
    let id := b.graph.nodes.size
    let b ← b.add head (collectionTag .map head.tag) (.mapping [])
    b.openNode (.mapping id [] none)
  | .sequenceEnd | .mappingEnd =>
    match b.openNodes with
    | [] => .ok b
    | o :: rest =>
      let (id, content) : NodeId × Content := match o with
        | .sequence id items => (id, .sequence items.reverse)
        | .mapping id entries _ => (id, .mapping entries.reverse)
      .ok ({ b with graph := b.graph.setContent id content, openNodes := rest }.place id)

/-- What the events add, up to the first mistake. -/
def steps (b : Builder) : List Event → Option Stop → Except Stop Builder
  | [], none => .ok b
  | [], some mistake => .error mistake
  | e :: rest, mistake =>
    match b.step e with
    | .ok b => steps b rest mistake
    | .error stop => .error stop

end Builder

/-- The graph of a stream of events, if it holds a document. -/
def Graph.ofEvents (events : List Event) (mistake : Option Stop) : Except Stop (Option Graph) := do
  let b ← Builder.empty.steps events mistake
  .ok (if b.graph.nodes.isEmpty then none else some b.graph)

end PackageGate.Yaml
