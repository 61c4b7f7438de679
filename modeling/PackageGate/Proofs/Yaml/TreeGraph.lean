import PackageGate.Proofs.Yaml.TreeEvents
import PackageGate.Yaml.Graph

/-!
# The graph of a written tree

A node of a graph `Holds` a tree if it is the root of nodes that are shaped like the tree, where
each collection begins before what it holds. The events of a tree build such a graph
(`holds_ofEvents`).

While the graph is built it only grows: nodes are added behind those that are there, and only the
node of the collection that ends is changed, which the collection itself has added.
-/

namespace PackageGate.Yaml

open Yaml.Tree (IsWord)

/-! ## Graphs that hold trees -/

/-- An entry of a mapping: its nodes, and what they hold. -/
structure Field where
  key : NodeId
  value : NodeId
  name : String
  tree : Tree

/-- A node is the root of nodes that are shaped like a tree. -/
inductive Holds (g : Graph) : NodeId → Tree → Prop where
  | text {n : NodeId} {place : Mark} {s : String} :
      g.nodes[n]? = some ⟨.str, place, .scalar s⟩ → Holds g n (.text s)
  | list {n : NodeId} {place : Mark} {items : List (NodeId × Tree)} :
      g.nodes[n]? = some ⟨.seq, place, .sequence (items.map (·.1))⟩ → (∀ i ∈ items, n < i.1) →
        (∀ i ∈ items, Holds g i.1 i.2) → Holds g n (.list (items.map (·.2)))
  | mapping {n : NodeId} {place : Mark} {fields : List Field} :
      g.nodes[n]? = some ⟨.map, place, .mapping (fields.map fun f => (f.key, f.value))⟩ →
        (fields.map (·.name)).Nodup → (∀ f ∈ fields, n < f.key ∧ n < f.value) →
          (∀ f ∈ fields, Holds g f.key (.text f.name)) → (∀ f ∈ fields, Holds g f.value f.tree) →
            Holds g n (.mapping (fields.map fun f => (f.name, f.tree)))

variable {g g' g'' : Graph} {n : NodeId} {t : Tree}

theorem Holds.lt_size (h : Holds g n t) : n < g.nodes.size := by
  cases h with
  | text hnode => exact (Array.getElem?_eq_some_iff.1 hnode).1
  | list hnode _ _ => exact (Array.getElem?_eq_some_iff.1 hnode).1
  | mapping hnode _ _ _ _ => exact (Array.getElem?_eq_some_iff.1 hnode).1

/-- A tree is held by its root and by later nodes. -/
theorem Holds.congr (h : Holds g n t)
    (hnodes : ∀ i, n ≤ i → i < g.nodes.size → g'.nodes[i]? = g.nodes[i]?) : Holds g' n t := by
  induction h with
  | @text n _ _ hnode =>
      have hn := (Array.getElem?_eq_some_iff.1 hnode).1
      exact .text ((hnodes n (Nat.le_refl n) hn).trans hnode)
  | @list n _ items hnode hbehind _ ih =>
      have hn := (Array.getElem?_eq_some_iff.1 hnode).1
      refine .list ((hnodes n (Nat.le_refl n) hn).trans hnode) hbehind fun i hi => ih i hi ?_
      exact fun j hj => hnodes j (Nat.le_trans (Nat.le_of_lt (hbehind i hi)) hj)
  | @mapping n _ fields hnode hnodup hbehind _ _ ihkey ihvalue =>
      have hn := (Array.getElem?_eq_some_iff.1 hnode).1
      refine .mapping ((hnodes n (Nat.le_refl n) hn).trans hnode) hnodup hbehind
        (fun f hf => ihkey f hf ?_) fun f hf => ihvalue f hf ?_
      · exact fun j hj => hnodes j (Nat.le_trans (Nat.le_of_lt (hbehind f hf).1) hj)
      · exact fun j hj => hnodes j (Nat.le_trans (Nat.le_of_lt (hbehind f hf).2) hj)

/-- Nodes are only added. -/
structure Graph.Grows (g g' : Graph) : Prop where
  size_le : g.nodes.size ≤ g'.nodes.size
  nodes : ∀ i < g.nodes.size, g'.nodes[i]? = g.nodes[i]?
  shared : g'.shared = g.shared

theorem Graph.Grows.refl (g : Graph) : g.Grows g := ⟨Nat.le_refl _, fun _ _ => rfl, rfl⟩

theorem Graph.Grows.trans (h : g.Grows g') (h' : g'.Grows g'') : g.Grows g'' :=
  ⟨Nat.le_trans h.size_le h'.size_le,
    fun i hi => (h'.nodes i (Nat.lt_of_lt_of_le hi h.size_le)).trans (h.nodes i hi),
    h'.shared.trans h.shared⟩

theorem Graph.grows_push (g : Graph) (node : Node) :
    g.Grows { g with nodes := g.nodes.push node } := by
  refine ⟨?_, fun i hi => ?_, rfl⟩
  · rw [Array.size_push]
    exact Nat.le_succ _
  · rw [Array.getElem?_push_lt hi, Array.getElem?_eq_getElem hi]

theorem Graph.getElem?_setContent (g : Graph) (n i : NodeId) (content : Content) :
    (g.setContent n content).nodes[i]? =
      if n = i then (g.nodes[i]?).map ({ · with content }) else g.nodes[i]? := by
  rw [setContent, Array.getElem?_modify]

theorem Graph.Grows.setContent (h : g.Grows g') (hn : g.nodes.size ≤ n) (content : Content) :
    g.Grows (g'.setContent n content) := by
  refine ⟨?_, fun i hi => ?_, h.shared⟩
  · rw [Graph.setContent, Array.size_modify]
    exact h.size_le
  · rw [getElem?_setContent, if_neg (Nat.ne_of_gt (Nat.lt_of_lt_of_le hi hn))]
    exact h.nodes i hi

theorem Holds.grows (h : Holds g n t) (hgrows : g.Grows g') : Holds g' n t :=
  h.congr fun i _ hi => hgrows.nodes i hi

/-! ## Building them -/

namespace Builder

variable {b b' : Builder} {es later : List Event} {m : Mark} {mistake : Option Stop}

theorem steps_cons {e : Event} (h : b.step e = .ok b') :
    b.steps (e :: es) mistake = b'.steps es mistake := by
  rw [steps, h]

theorem place_sequence {id : NodeId} {items : List NodeId} {outer : List OpenNode}
    (h : b.openNodes = .sequence id items :: outer) (n : NodeId) :
    b.place n = { b with openNodes := .sequence id (n :: items) :: outer } := by
  rw [place, h]

theorem place_key {id : NodeId} {entries : List (NodeId × NodeId)} {outer : List OpenNode}
    (h : b.openNodes = .mapping id entries none :: outer) (n : NodeId) :
    b.place n = { b with openNodes := .mapping id entries (some n) :: outer } := by
  rw [place, h]

theorem place_value {id key : NodeId} {entries : List (NodeId × NodeId)} {outer : List OpenNode}
    (h : b.openNodes = .mapping id entries (some key) :: outer) (n : NodeId) :
    b.place n = { b with openNodes := .mapping id ((key, n) :: entries) none :: outer } := by
  rw [place, h]

/-- The builder with a node more. -/
def added (b : Builder) (node : Node) : Builder :=
  { b with graph := { b.graph with nodes := b.graph.nodes.push node } }

theorem lt_size_added (b : Builder) (node : Node) :
    b.graph.nodes.size < (b.added node).graph.nodes.size := by
  rw [added, Array.size_push]
  exact Nat.lt_succ_self _

theorem step_scalar {s : String} {isOpen : Bool} (htag : scalarTag s isOpen none = .str) :
    b.step (.scalar ⟨none, none, m⟩ s isOpen) =
      .ok ((b.added ⟨.str, m, .scalar s⟩).place b.graph.nodes.size) := by
  rw [step]
  dsimp only
  rw [htag]
  rfl

theorem step_sequenceStart (hdepth : b.openNodes.length < depthLimit) :
    b.step (.sequenceStart ⟨none, none, m⟩) =
      .ok { b.added ⟨.seq, m, .sequence []⟩ with
        openNodes := .sequence b.graph.nodes.size [] :: b.openNodes } := by
  show openNode (b.added ⟨.seq, m, .sequence []⟩) _ = _
  exact if_neg (Nat.not_le_of_lt hdepth)

theorem step_mappingStart (hdepth : b.openNodes.length < depthLimit) :
    b.step (.mappingStart ⟨none, none, m⟩) =
      .ok { b.added ⟨.map, m, .mapping []⟩ with
        openNodes := .mapping b.graph.nodes.size [] none :: b.openNodes } := by
  show openNode (b.added ⟨.map, m, .mapping []⟩) _ = _
  exact if_neg (Nat.not_le_of_lt hdepth)

/-- The events of a tree, whatever comes behind them, add nodes that hold the tree, and put its root
into the innermost open collection. -/
def Plants (t : Tree) : Prop :=
  ∀ (b : Builder) (es later : List Event), es.map Event.bare = t.events ++ later →
    b.openNodes.length + t.depth ≤ depthLimit →
      ∃ (g : Graph) (es' : List Event), es'.map Event.bare = later ∧ b.graph.Grows g
        ∧ Holds g b.graph.nodes.size t
        ∧ b.steps es none = (place { b with graph := g } b.graph.nodes.size).steps es' none

theorem plants_items {items : List Tree} (hitems : ∀ t ∈ items, Plants t) {n : NodeId}
    {before : List NodeId} {outer : List OpenNode}
    (hopen : b.openNodes = .sequence n before :: outer)
    (hes : es.map Event.bare = (items.map Tree.events).flatten ++ later)
    (hdepth : ∀ t ∈ items, outer.length + 1 + t.depth ≤ depthLimit) :
    ∃ (g : Graph) (parts : List (NodeId × Tree)) (es' : List Event), es'.map Event.bare = later
      ∧ b.graph.Grows g ∧ parts.map Prod.snd = items
      ∧ (∀ i ∈ parts, b.graph.nodes.size ≤ i.1 ∧ Holds g i.1 i.2)
      ∧ b.steps es none = steps { b with
          graph := g, openNodes := .sequence n ((parts.map Prod.fst).reverse ++ before) :: outer }
          es' none := by
  induction items generalizing b es before with
  | nil =>
      refine ⟨b.graph, [], es, hes, Graph.Grows.refl _, rfl,
        fun i hi => absurd hi List.not_mem_nil, ?_⟩
      rw [List.map_nil, List.reverse_nil, List.nil_append, ← hopen]
  | cons t items ih =>
      rw [List.map_cons, List.flatten_cons, List.append_assoc] at hes
      have ht := hdepth t List.mem_cons_self
      obtain ⟨g, es₁, hes₁, hgrows, hholds, hsteps⟩ := hitems t List.mem_cons_self b es _ hes
        (by rw [hopen, List.length_cons]; exact ht)
      obtain ⟨g', parts, es₂, hes₂, hgrows', hparts, hall, hsteps'⟩ :=
        ih (b := { b with
              graph := g, openNodes := .sequence n (b.graph.nodes.size :: before) :: outer })
          (fun u hu => hitems u (List.mem_cons_of_mem t hu)) rfl hes₁
          fun u hu => hdepth u (List.mem_cons_of_mem t hu)
      -- the first item keeps its nodes while those of the others are added
      refine ⟨g', (b.graph.nodes.size, t) :: parts, es₂, hes₂, hgrows.trans hgrows',
        by rw [List.map_cons, hparts], fun i hi => ?_, ?_⟩
      · rcases List.mem_cons.1 hi with rfl | hi
        · exact ⟨Nat.le_refl _, hholds.grows hgrows'⟩
        · exact ⟨Nat.le_trans hgrows.size_le (hall i hi).1, (hall i hi).2⟩
      · rw [hsteps, place_sequence (b := { b with graph := g }) hopen]
        refine hsteps'.trans ?_
        rw [List.map_cons, List.reverse_cons, List.append_assoc]
        rfl

theorem eq_scalar_of_bare {e : Event} {s : String} {isOpen : Bool}
    (h : e.bare = .scalar plainHead s isOpen) : ∃ m, e = .scalar ⟨none, none, m⟩ s isOpen := by
  cases e with
  | scalar head text isOpen' =>
      obtain ⟨anchor, tag, m⟩ := head
      cases h
      exact ⟨m, rfl⟩
  | _ => cases h

theorem eq_sequenceStart_of_bare {e : Event} (h : e.bare = .sequenceStart plainHead) :
    ∃ m, e = .sequenceStart ⟨none, none, m⟩ := by
  cases e with
  | sequenceStart head =>
      obtain ⟨anchor, tag, m⟩ := head
      cases h
      exact ⟨m, rfl⟩
  | _ => cases h

theorem eq_mappingStart_of_bare {e : Event} (h : e.bare = .mappingStart plainHead) :
    ∃ m, e = .mappingStart ⟨none, none, m⟩ := by
  cases e with
  | mappingStart head =>
      obtain ⟨anchor, tag, m⟩ := head
      cases h
      exact ⟨m, rfl⟩
  | _ => cases h

theorem plants_entries {entries : List (String × Tree)}
    (hentries : ∀ e ∈ entries, IsWord e.1 ∧ Plants e.2) {n : NodeId}
    {before : List (NodeId × NodeId)} {outer : List OpenNode}
    (hopen : b.openNodes = .mapping n before none :: outer)
    (hes : es.map Event.bare =
      (entries.map fun e => Event.scalar plainHead e.1 true :: e.2.events).flatten ++ later)
    (hdepth : ∀ e ∈ entries, outer.length + 1 + e.2.depth ≤ depthLimit) :
    ∃ (g : Graph) (fields : List Field) (es' : List Event), es'.map Event.bare = later
      ∧ b.graph.Grows g ∧ (fields.map fun f => (f.name, f.tree)) = entries
      ∧ (∀ f ∈ fields, b.graph.nodes.size ≤ f.key ∧ b.graph.nodes.size ≤ f.value
          ∧ Holds g f.key (.text f.name) ∧ Holds g f.value f.tree)
      ∧ b.steps es none = steps { b with
          graph := g
          openNodes :=
            .mapping n ((fields.map fun f => (f.key, f.value)).reverse ++ before) none :: outer }
          es' none := by
  induction entries generalizing b es before with
  | nil =>
      refine ⟨b.graph, [], es, hes, Graph.Grows.refl _, rfl,
        fun i hi => absurd hi List.not_mem_nil, ?_⟩
      rw [List.map_nil, List.reverse_nil, List.nil_append, ← hopen]
  | cons e entries ih =>
      obtain ⟨hword, hplants⟩ := hentries e List.mem_cons_self
      rw [List.map_cons, List.flatten_cons, List.append_assoc] at hes
      obtain ⟨key, es₀, rfl, hkey, hes₀⟩ := List.map_eq_cons_iff.1 hes
      obtain ⟨m, rfl⟩ := eq_scalar_of_bare hkey
      -- the key is the first node that is added, and the root of the value the second
      let id := b.graph.nodes.size
      let b₁ : Builder :=
        { b.added ⟨.str, m, .scalar e.1⟩ with openNodes := .mapping n before (some id) :: outer }
      have hsize : b₁.graph.nodes.size = id + 1 := Array.size_push _
      have hstep : b.step (.scalar ⟨none, none, m⟩ e.1 true) = .ok b₁ := by
        rw [step_scalar, place_key (b := b.added ⟨.str, m, .scalar e.1⟩) hopen]
        exact hword.2.2.2
      have hheld : Holds b₁.graph id (.text e.1) := .text Array.getElem?_push_size
      obtain ⟨g, es₁, hes₁, hgrows, hholds, hsteps⟩ :=
        hplants b₁ es₀ _ hes₀ (hdepth e List.mem_cons_self)
      obtain ⟨g', fields, es₂, hes₂, hgrows', hfields, hall, hsteps'⟩ :=
        ih (b := { b with
              graph := g, openNodes := .mapping n ((id, id + 1) :: before) none :: outer })
          (fun f hf => hentries f (List.mem_cons_of_mem e hf)) rfl hes₁
          fun f hf => hdepth f (List.mem_cons_of_mem e hf)
      have hbefore : id + 1 ≤ g.nodes.size := by
        rw [← hsize]
        exact hgrows.size_le
      rw [hsize] at hholds
      refine ⟨g', ⟨id, id + 1, e.1, e.2⟩ :: fields, es₂, hes₂,
        ((b.graph.grows_push _).trans hgrows).trans hgrows', by rw [List.map_cons, hfields],
        fun f hf => ?_, ?_⟩
      · rcases List.mem_cons.1 hf with rfl | hf
        · exact ⟨Nat.le_refl _, Nat.le_succ _, hheld.grows (hgrows.trans hgrows'),
            hholds.grows hgrows'⟩
        · obtain ⟨hkey, hvalue, hholds⟩ := hall f hf
          have hle : b.graph.nodes.size ≤ g.nodes.size := Nat.le_trans (Nat.le_succ _) hbefore
          exact ⟨Nat.le_trans hle hkey, Nat.le_trans hle hvalue, hholds⟩
      · rw [steps_cons hstep, hsteps, place_value (b := { b₁ with graph := g }) rfl, hsize]
        refine hsteps'.trans ?_
        rw [List.map_cons, List.reverse_cons, List.append_assoc]
        rfl

/-! ## Whole trees -/

theorem step_sequenceEnd {n : NodeId} {items : List NodeId} {outer : List OpenNode}
    (h : b.openNodes = .sequence n items :: outer) : b.step .sequenceEnd =
      .ok (place { b with
        graph := b.graph.setContent n (.sequence items.reverse), openNodes := outer } n) := by
  rw [step, h]

theorem step_mappingEnd {n : NodeId} {entries : List (NodeId × NodeId)} {key : Option NodeId}
    {outer : List OpenNode} (h : b.openNodes = .mapping n entries key :: outer) :
    b.step .mappingEnd =
      .ok (place { b with
        graph := b.graph.setContent n (.mapping entries.reverse), openNodes := outer } n) := by
  rw [step, h]

/-- The node of a collection that ends gets its content, and later nodes stay as they are. -/
theorem setContent_added {tag : Tag} {first : Content} {g : Graph}
    (hgrows : (b.added ⟨tag, m, first⟩).graph.Grows g) (content : Content) :
    b.graph.Grows (g.setContent b.graph.nodes.size content)
      ∧ (g.setContent b.graph.nodes.size content).nodes[b.graph.nodes.size]? =
          some ⟨tag, m, content⟩
      ∧ ∀ n t, b.graph.nodes.size < n → Holds g n t →
          Holds (g.setContent b.graph.nodes.size content) n t := by
  have hsize : (b.added ⟨tag, m, first⟩).graph.nodes.size = b.graph.nodes.size + 1 :=
    Array.size_push _
  have hnode : g.nodes[b.graph.nodes.size]? = some ⟨tag, m, first⟩ := by
    rw [hgrows.nodes _ (by rw [hsize]; exact Nat.lt_succ_self _)]
    exact Array.getElem?_push_size
  refine ⟨((b.graph.grows_push _).trans hgrows).setContent (Nat.le_refl _) content, ?_,
    fun n t hn ht => ht.congr fun i hi _ => ?_⟩
  · rw [Graph.getElem?_setContent, if_pos rfl, hnode]
    rfl
  · rw [Graph.getElem?_setContent, if_neg (Nat.ne_of_lt (Nat.lt_of_lt_of_le hn hi))]

/-- **The events of a tree add nodes that hold it.** -/
theorem plants_tree (ht : t.Sound) : Plants t := by
  induction ht with
  | text s =>
      intro b es later hes _
      rw [Tree.events] at hes
      obtain ⟨e, es', rfl, he, hes'⟩ := List.map_eq_cons_iff.1 hes
      obtain ⟨m, rfl⟩ := eq_scalar_of_bare he
      exact ⟨_, es', hes', b.graph.grows_push ⟨.str, m, .scalar s⟩, .text Array.getElem?_push_size,
        steps_cons (step_scalar rfl)⟩
  | @list items hitems ih =>
      intro b es later hes hdepth
      rw [Tree.events, List.append_assoc] at hes
      obtain ⟨e, es₀, rfl, he, hes₀⟩ := List.map_eq_cons_iff.1 hes
      obtain ⟨m, rfl⟩ := eq_sequenceStart_of_bare he
      have hmem : ∀ t ∈ items, b.openNodes.length + 1 + t.depth ≤ depthLimit := by
        intro t ht
        have := Tree.depth_lt_list ht
        omega
      -- the node of the list is added first, and its content is set behind the last item
      have hstep := step_sequenceStart (b := b) (m := m) (by rw [Tree.depth] at hdepth; omega)
      obtain ⟨g, parts, es₁, hes₁, hgrows, rfl, hall, hsteps⟩ := plants_items ih rfl hes₀ hmem
        (b := { b.added ⟨.seq, m, .sequence []⟩ with
          openNodes := .sequence b.graph.nodes.size [] :: b.openNodes })
      obtain ⟨e, es₂, rfl, he, hes₂⟩ := List.map_eq_cons_iff.1 hes₁
      obtain rfl := Event.eq_of_bare he rfl
      obtain ⟨hgrows', hnode, hheld⟩ :=
        setContent_added hgrows (.sequence (parts.map (·.1)))
      have hbehind : ∀ i ∈ parts, b.graph.nodes.size < i.1 := by
        intro i hi
        exact Nat.lt_of_lt_of_le (lt_size_added b _) (hall i hi).1
      refine ⟨_, es₂, hes₂, hgrows', .list hnode hbehind fun i hi => ?_, ?_⟩
      · exact hheld i.1 i.2 (hbehind i hi) (hall i hi).2
      · rw [steps_cons hstep, hsteps, steps_cons (step_sequenceEnd rfl)]
        rw [List.append_nil, List.reverse_reverse]
        rfl
  | @mapping entries hne hwords hnodup hentries ih =>
      intro b es later hes hdepth
      rw [Tree.events, List.append_assoc] at hes
      obtain ⟨e, es₀, rfl, he, hes₀⟩ := List.map_eq_cons_iff.1 hes
      obtain ⟨m, rfl⟩ := eq_mappingStart_of_bare he
      have hmem : ∀ e ∈ entries, b.openNodes.length + 1 + e.2.depth ≤ depthLimit := by
        intro e he
        have := Tree.depth_lt_mapping he
        omega
      -- as for lists, but each entry adds the node of its key in front of those of its value
      have hstep := step_mappingStart (b := b) (m := m) (by rw [Tree.depth] at hdepth; omega)
      obtain ⟨g, fields, es₁, hes₁, hgrows, rfl, hall, hsteps⟩ :=
        plants_entries (fun e he => ⟨hwords e he, ih e he⟩) rfl hes₀ hmem
        (b := { b.added ⟨.map, m, .mapping []⟩ with
          openNodes := .mapping b.graph.nodes.size [] none :: b.openNodes })
      obtain ⟨e, es₂, rfl, he, hes₂⟩ := List.map_eq_cons_iff.1 hes₁
      obtain rfl := Event.eq_of_bare he rfl
      obtain ⟨hgrows', hnode, hheld⟩ :=
        setContent_added hgrows (.mapping (fields.map fun f => (f.key, f.value)))
      have hbehind : ∀ f ∈ fields, b.graph.nodes.size < f.key ∧ b.graph.nodes.size < f.value := by
        intro f hf
        obtain ⟨hkey, hvalue, -⟩ := hall f hf
        exact ⟨Nat.lt_of_lt_of_le (lt_size_added b _) hkey,
          Nat.lt_of_lt_of_le (lt_size_added b _) hvalue⟩
      have hnames : (fields.map (·.name)).Nodup := by
        rw [List.map_map] at hnodup
        exact hnodup
      refine ⟨_, es₂, hes₂, hgrows',
        .mapping hnode hnames hbehind (fun f hf => ?_) fun f hf => ?_, ?_⟩
      · exact hheld f.key _ (hbehind f hf).1 (hall f hf).2.2.1
      · exact hheld f.value _ (hbehind f hf).2 (hall f hf).2.2.2
      · rw [steps_cons hstep, hsteps, steps_cons (step_mappingEnd rfl)]
        rw [List.append_nil, List.reverse_reverse]
        rfl

end Builder

/-- **The events of a document with a tree give a graph that holds the tree.** -/
theorem holds_ofEvents (ht : t.Sound) (hdepth : t.depth ≤ depthLimit) {es : List Event}
    (hes : es.map Event.bare = .documentStart default :: t.events ++ [.documentEnd, .streamEnd]) :
    ∃ g, Graph.ofEvents es none = .ok (some g) ∧ g.shared = false ∧ Holds g 0 t := by
  obtain ⟨e, es₀, rfl, he, hes₀⟩ := List.map_eq_cons_iff.1 hes
  obtain ⟨m, rfl⟩ : ∃ m, e = .documentStart m := by
    cases e with
    | documentStart m => exact ⟨m, rfl⟩
    | _ => cases he
  obtain ⟨g, es₁, hes₁, hgrows, hholds, hsteps⟩ :=
    Builder.plants_tree ht .empty es₀ _ hes₀ (by rw [Builder.empty]; simpa using hdepth)
  obtain ⟨e, es₂, rfl, he, hes₂⟩ := List.map_eq_cons_iff.1 hes₁
  obtain rfl := Event.eq_of_bare he rfl
  obtain ⟨e, es₃, rfl, he, hes₃⟩ := List.map_eq_cons_iff.1 hes₂
  obtain rfl := Event.eq_of_bare he rfl
  obtain rfl := List.map_eq_nil_iff.1 hes₃
  have hbuilt : Builder.empty.steps
      (.documentStart m :: es₀) none = .ok ⟨g, [], [], true⟩ :=
    (Builder.steps_cons rfl).trans hsteps
  have hnodes : g.nodes.isEmpty = false := by
    rw [Array.isEmpty_eq_false_iff, ← Array.size_pos_iff]
    exact hholds.lt_size
  refine ⟨g, ?_, hgrows.shared, hholds⟩
  rw [Graph.ofEvents, hbuilt]
  rw [bind_ok, hnodes, if_neg Bool.false_ne_true]

end PackageGate.Yaml
