import PackageGate.Proofs.Outcome
import PackageGate.Proofs.Value.Keys
import PackageGate.Proofs.Yaml.TreeGraph
import PackageGate.Yaml.Denote

/-!
# The value of a graph that holds a tree

A graph that holds a tree at its root denotes the value of the tree (`ofGraph_tree`). While the
nodes are visited, each node that is known is waiting, or its cell is `goal` and what it holds is
known too (`Progress`). When nothing waits any more, the cells of the whole tree are known, and the
value of each node is made of those of later nodes.
-/

namespace PackageGate.Yaml

open Value (sameKey)

/-! ## Goals -/

/-- The text of a node that is a scalar. -/
def Graph.textAt (g : Graph) (n : NodeId) : String :=
  match (g.node n).content with
  | .scalar s => s
  | _ => ""

/-- What is known of a node in the end. -/
def goal (g : Graph) (n : NodeId) : Cell :=
  match (g.node n).content with
  | .scalar s => .atom (.str s)
  | .sequence items => .list items
  | .mapping entries => .dict (entries.map fun e => (.str (g.textAt e.1), e.2))

/-- The nodes whose values make up the value of a node. -/
def children (g : Graph) (n : NodeId) : List NodeId :=
  match (g.node n).content with
  | .scalar _ => []
  | .sequence items => items
  | .mapping entries => entries.map (·.2)

/-- A node is the root of a list or mapping. -/
def IsCollection (g : Graph) (n : NodeId) : Prop := ∃ t, Holds g n t ∧ ∀ s, t ≠ .text s

variable {g : Graph} {n : NodeId} {t : Tree}

theorem node_eq {node : Node} (h : g.nodes[n]? = some node) : g.node n = node := by
  rw [Graph.node, h]
  rfl

theorem textAt_text {s : String} (h : Holds g n (.text s)) : g.textAt n = s := by
  cases h with
  | text hnode => rw [Graph.textAt, node_eq hnode]

/-- A text is no list or mapping. -/
theorem not_isCollection_text {s : String} (h : Holds g n (.text s)) : ¬IsCollection g n := by
  rintro ⟨t, ht, hne⟩
  cases h with
  | text hnode =>
      cases ht with
      | text _ => exact hne _ rfl
      | list hnode' _ _ =>
          rw [hnode] at hnode'
          cases hnode'
      | mapping hnode' _ _ _ _ =>
          rw [hnode] at hnode'
          cases hnode'

theorem goal_text {s : String} (h : Holds g n (.text s)) : goal g n = .atom (.str s) := by
  cases h with
  | text hnode => rw [goal, node_eq hnode]

theorem goal_fields {m : Mark} {fields : List Field}
    (hnode : g.nodes[n]? = some ⟨.map, m, .mapping (fields.map fun f => (f.key, f.value))⟩)
    (hkeys : ∀ f ∈ fields, Holds g f.key (.text f.name)) :
    goal g n = .dict (fields.map fun f => (.str f.name, f.value)) := by
  rw [goal, node_eq hnode]
  dsimp only
  rw [List.map_map]
  congr 1
  refine List.map_congr_left fun f hf => ?_
  rw [Function.comp_apply, textAt_text (hkeys f hf)]

/-! ## Progress -/

/-- Something is known of a node. -/
def Entered (v : Visit) (n : NodeId) : Prop := ∃ cell, v.cells[n]? = some (some cell)

/-- The visit of a graph, while some nodes are busy: each node that is known is busy, waits, or is
known in the end, and so is what it holds. -/
structure Progress (g : Graph) (busy : List NodeId) (v : Visit) : Prop where
  graph : v.graph = g
  size : v.cells.size = g.nodes.size
  collections : ∀ n ∈ busy ++ v.waiting, IsCollection g n
  cells : ∀ n cell, v.cells[n]? = some (some cell) → n ∈ busy ++ v.waiting
    ∨ cell = goal g n ∧ ∀ m ∈ children g n, Entered v m

/-- How many nodes wait or are unknown. -/
def todo (v : Visit) : Nat := v.waiting.length + v.cells.toList.countP Option.isNone

/-- The visit has made progress. -/
structure Advances (g : Graph) (busy : List NodeId) (v w : Visit) : Prop where
  progress : Progress g busy w
  entered : ∀ m, Entered v m → Entered w m
  todo_le : todo w ≤ todo v

variable {busy : List NodeId} {u v w : Visit}

theorem Advances.refl (h : Progress g busy v) : Advances g busy v v :=
  ⟨h, fun _ hm => hm, Nat.le_refl _⟩

theorem Advances.trans (h : Advances g busy u v) (h' : Advances g busy v w) : Advances g busy u w :=
  ⟨h'.progress, fun m hm => h'.entered m (h.entered m hm), Nat.le_trans h'.todo_le h.todo_le⟩

theorem entered_set (hn : n < v.cells.size) (cell : Cell) (waiting : List NodeId) {m : NodeId}
    (hm : m = n ∨ Entered v m) :
    Entered ⟨v.graph, v.cells.setIfInBounds n (some cell), waiting⟩ m := by
  by_cases hsame : n = m
  · subst hsame
    exact ⟨cell, by rw [Array.getElem?_setIfInBounds, if_pos rfl, if_pos hn]⟩
  · obtain ⟨c, hc⟩ := hm.resolve_left (Ne.symm hsame)
    exact ⟨c, by rw [Array.getElem?_setIfInBounds, if_neg hsame, hc]⟩

theorem countP_set (hn : n < v.cells.size) (cell : Cell) :
    (v.cells.setIfInBounds n (some cell)).toList.countP Option.isNone =
      v.cells.toList.countP Option.isNone - if v.cells[n].isNone = true then 1 else 0 := by
  rw [Array.toList_setIfInBounds, List.countP_set hn]
  rfl

/-- Something gets known of a node of which nothing was known. -/
theorem countP_set_unknown (hn : v.cells[n]? = some none) (cell : Cell) :
    (v.cells.setIfInBounds n (some cell)).toList.countP Option.isNone + 1 =
      v.cells.toList.countP Option.isNone := by
  obtain ⟨hlt, hnone⟩ := Array.getElem?_eq_some_iff.1 hn
  have hpos : 0 < v.cells.toList.countP Option.isNone := by
    rw [List.countP_pos_iff]
    exact ⟨none, Array.mem_toList_iff.2 (Array.mem_of_getElem? hn), rfl⟩
  rw [countP_set hlt, hnone, Option.isNone_none, if_pos rfl]
  exact Nat.sub_add_cancel hpos

/-! ## Steps -/

/-- A cell may be set if its node waits, or if it is known in the end. -/
theorem progress_set {busy' waiting : List NodeId} (h : Progress g busy v) (hn : n < v.cells.size)
    {cell : Cell} (hcollections : ∀ m ∈ busy' ++ waiting, IsCollection g m)
    (hothers : ∀ m ∈ busy ++ v.waiting, m ≠ n → m ∈ busy' ++ waiting)
    (hnew : n ∈ busy' ++ waiting ∨ cell = goal g n ∧ ∀ m ∈ children g n, Entered v m) :
    Progress g busy' ⟨v.graph, v.cells.setIfInBounds n (some cell), waiting⟩ := by
  refine ⟨h.graph, by rw [Array.size_setIfInBounds]; exact h.size, hcollections, fun m c hc => ?_⟩
  rw [Array.getElem?_setIfInBounds] at hc
  by_cases hsame : n = m
  · rw [if_pos hsame, if_pos hn] at hc
    cases hc
    rw [← hsame]
    exact hnew.imp id fun ⟨hgoal, hchildren⟩ =>
      ⟨hgoal, fun k hk => entered_set hn cell waiting (.inr (hchildren k hk))⟩
  · rw [if_neg hsame] at hc
    refine (h.cells m c hc).imp (fun hm => hothers m hm (Ne.symm hsame)) fun ⟨hgoal, hchildren⟩ =>
      ⟨hgoal, fun k hk => entered_set hn cell waiting (.inr (hchildren k hk))⟩

theorem scalarValue_text {s : String} (h : Holds g n (.text s)) :
    Visit.scalarValue g n = .ok (.str s) := by
  cases h with
  | text hnode =>
      have hnode := node_eq hnode
      rw [Visit.scalarValue, Visit.scalarText, hnode]
      rfl

/-- A node of which nothing was known gets a cell, and perhaps has to wait. -/
theorem enter_unknown (hcell : v.cells[n]? = some none) (ht : Holds v.graph n t) :
    (∃ s, t = .text s ∧ v.enter n =
        .ok { v with cells := v.cells.setIfInBounds n (some (.atom (.str s))) })
      ∨ IsCollection v.graph n ∧ ∃ cell, v.enter n = .ok { v with
          cells := v.cells.setIfInBounds n (some cell), waiting := v.waiting ++ [n] } := by
  rw [Visit.enter, hcell]
  dsimp only
  cases ht with
  | @text _ m s hnode =>
      refine .inl ⟨s, rfl, ?_⟩
      rw [scalarValue_text (.text hnode), node_eq hnode]
      rfl
  | @list _ m items hnode hbehind hitems =>
      refine .inr ⟨⟨_, .list hnode hbehind hitems, fun s hs => by cases hs⟩, .list [], ?_⟩
      rw [node_eq hnode]
  | @mapping _ m fields hnode hnodup hbehind hkeys hfields =>
      refine .inr ⟨⟨_, .mapping hnode hnodup hbehind hkeys hfields, fun s hs => by cases hs⟩,
        .dict [], ?_⟩
      rw [node_eq hnode]

/-- Something gets known of a node of which nothing was known, and at most one node more waits. -/
theorem advances_set_unknown (h : Progress g busy v) (hcell : v.cells[n]? = some none) {cell : Cell}
    {waiting : List NodeId} (hcollections : ∀ m ∈ busy ++ waiting, IsCollection g m)
    (hothers : ∀ m ∈ busy ++ v.waiting, m ∈ busy ++ waiting)
    (hnew : n ∈ busy ++ waiting ∨ cell = goal g n ∧ ∀ m ∈ children g n, Entered v m)
    (hlength : waiting.length ≤ v.waiting.length + 1) :
    Advances g busy v ⟨v.graph, v.cells.setIfInBounds n (some cell), waiting⟩
      ∧ Entered ⟨v.graph, v.cells.setIfInBounds n (some cell), waiting⟩ n := by
  have hlt : n < v.cells.size := (Array.getElem?_eq_some_iff.1 hcell).1
  refine ⟨⟨progress_set h hlt hcollections (fun m hm _ => hothers m hm) hnew,
    fun m hm => entered_set hlt _ _ (.inr hm), ?_⟩, entered_set hlt _ _ (.inl rfl)⟩
  -- one node more may wait, but of one node less nothing is known
  have hcount := countP_set_unknown hcell cell
  dsimp only [todo]
  omega

theorem children_text {s : String} (h : Holds g n (.text s)) : children g n = [] := by
  cases h with
  | text hnode => rw [children, node_eq hnode]

/-- Something of a node that holds a tree gets known. -/
theorem enter_tree (h : Progress g busy v) (ht : Holds g n t) :
    ∃ w, v.enter n = .ok w ∧ Advances g busy v w ∧ Entered w n := by
  obtain rfl := h.graph
  cases hcell : v.cells[n]? with
  | none =>
      rw [Array.getElem?_eq_none_iff, h.size] at hcell
      exact absurd ht.lt_size (Nat.not_lt_of_le hcell)
  | some known =>
      cases known with
      | some cell =>
          refine ⟨v, ?_, .refl h, cell, hcell⟩
          rw [Visit.enter, hcell]
      | none =>
          rcases enter_unknown hcell ht with ⟨s, rfl, henter⟩ | ⟨hcollection, cell, henter⟩
          · -- a text is known at once
            refine ⟨_, henter, advances_set_unknown h hcell h.collections (fun m hm => hm)
              (.inr ⟨(goal_text ht).symm, ?_⟩) (Nat.le_succ _)⟩
            rw [children_text ht]
            exact fun m hm => absurd hm List.not_mem_nil
          · -- a list or mapping waits behind all others
            have hwaits : ∀ m, m ∈ busy ++ (v.waiting ++ [n]) ↔ m ∈ busy ++ v.waiting ∨ m = n := by
              intro m
              rw [← List.append_assoc, List.mem_append, List.mem_singleton]
            refine ⟨_, henter, advances_set_unknown h hcell (fun m hm => ?_)
              (fun m hm => (hwaits m).2 (.inl hm)) (.inl ((hwaits n).2 (.inr rfl))) ?_⟩
            · rcases (hwaits m).1 hm with hm | rfl
              · exact h.collections m hm
              · exact hcollection
            · exact Nat.le_of_eq (List.length_append ..)

theorem enterAll_trees {items : List (NodeId × Tree)} (h : Progress g busy v)
    (hitems : ∀ i ∈ items, Holds g i.1 i.2) :
    ∃ w, v.enterAll (items.map (·.1)) = .ok w ∧ Advances g busy v w
      ∧ ∀ i ∈ items, Entered w i.1 := by
  induction items generalizing v with
  | nil =>
      exact ⟨v, rfl, .refl h, fun i hi => absurd hi List.not_mem_nil⟩
  | cons i items ih =>
      obtain ⟨u, hu, hadvance, hentered⟩ := enter_tree h (hitems i List.mem_cons_self)
      obtain ⟨w, hw, hadvance', hall⟩ :=
        ih hadvance.progress fun j hj => hitems j (List.mem_cons_of_mem i hj)
      refine ⟨w, ?_, hadvance.trans hadvance', fun j hj => ?_⟩
      · rw [List.map_cons, Visit.enterAll, List.foldlM_cons, hu]
        exact hw
      · rcases List.mem_cons.1 hj with rfl | hj
        · exact hadvance'.entered _ hentered
        · exact hall j hj

/-- A key that is set for the first time comes behind the others. -/
theorem putNode_eq_append {key : Value} {done : List (Value × NodeId)}
    (h : ∀ e ∈ done, sameKey e.1 key = false) :
    Visit.putNode key n done = done ++ [(key, n)] := by
  induction done with
  | nil => rfl
  | cons e done ih =>
      rw [Visit.putNode, h e List.mem_cons_self, if_neg Bool.false_ne_true,
        ih fun f hf => h f (List.mem_cons_of_mem e hf), List.cons_append]

/-- The text of a key is known once the key is. -/
theorem key?_text {s : String} (h : Progress g busy v) (ht : Holds g n (.text s))
    (hn : Entered v n) : v.key? n = some (.str s) := by
  obtain ⟨cell, hcell⟩ := hn
  rcases h.cells n cell hcell with hwaits | ⟨rfl, -⟩
  · exact absurd (h.collections n hwaits) (not_isCollection_text ht)
  · rw [Visit.key?, hcell, goal_text ht]

theorem enterEntries_fields (owner : Mark) {fields : List Field} (h : Progress g busy v)
    (hkeys : ∀ f ∈ fields, Holds g f.key (.text f.name))
    (hfields : ∀ f ∈ fields, Holds g f.value f.tree) (before : List Field)
    (hnodup : ((before ++ fields).map (·.name)).Nodup) :
    ∃ w, Visit.enterEntries owner (fields.map fun f => (f.key, f.value)) v
        (before.map fun f => (.str f.name, f.value)) =
          .ok (w, (before ++ fields).map fun f => (.str f.name, f.value))
      ∧ Advances g busy v w ∧ ∀ f ∈ fields, Entered w f.value := by
  induction fields generalizing v before with
  | nil =>
      refine ⟨v, ?_, .refl h, fun f hf => absurd hf List.not_mem_nil⟩
      rw [List.append_nil, List.map_nil, Visit.enterEntries]
  | cons f fields ih =>
      obtain ⟨u, hu, hadvance, hkey⟩ := enter_tree h (hkeys f List.mem_cons_self)
      obtain ⟨w, hw, hadvance', hvalue⟩ :=
        enter_tree hadvance.progress (hfields f List.mem_cons_self)
      rw [List.append_cons] at hnodup ⊢
      obtain ⟨x, hx, hadvance'', hall⟩ := ih hadvance'.progress
        (fun g hg => hkeys g (List.mem_cons_of_mem f hg))
        (fun g hg => hfields g (List.mem_cons_of_mem f hg)) (before ++ [f]) hnodup
      -- no name occurs twice, so that the entry comes behind those before
      have hfresh : ∀ e ∈ before.map (fun f : Field => (Value.str f.name, f.value)),
          sameKey e.1 (.str f.name) = false := by
        intro e he
        obtain ⟨d, hd, rfl⟩ := List.mem_map.1 he
        rw [Value.sameKey_str_str, decide_eq_false_iff_not]
        rw [List.map_append, List.map_append] at hnodup
        have hbefore := (List.nodup_append.1 (List.nodup_append.1 hnodup).1).2.2
        exact hbefore d.name (List.mem_map_of_mem hd) f.name (List.mem_singleton.2 rfl)
      refine ⟨x, ?_, (hadvance.trans hadvance').trans hadvance'', fun d hd => ?_⟩
      · rw [List.map_cons, Visit.enterEntries, hu, bind_ok,
          key?_text hadvance.progress (hkeys f List.mem_cons_self) hkey]
        dsimp only
        rw [hw, bind_ok, putNode_eq_append hfresh]
        rw [List.map_append] at hx
        exact hx
      · rcases List.mem_cons.1 hd with rfl | hd
        · exact hadvance''.entered _ hvalue
        · exact hall d hd

/-- A mapping of fields has no key that is merged. -/
theorem flatten_fields {m : Mark} {fields : List Field}
    (hnode : g.nodes[n]? = some ⟨.map, m, .mapping (fields.map fun f => (f.key, f.value))⟩)
    (hkeys : ∀ f ∈ fields, Holds g f.key (.text f.name)) : Visit.flatten g n = .ok g := by
  have hentries : Visit.entriesOf g n = fields.map fun f => (f.key, f.value) := by
    rw [Visit.entriesOf, node_eq hnode]
  have hnone : ((fields.map fun f => (f.key, f.value)).findIdx? fun e =>
      (g.node e.1).tag = .merge || (g.node e.1).tag = .value) = none := by
    rw [List.findIdx?_eq_none_iff]
    intro e he
    obtain ⟨f, hf, rfl⟩ := List.mem_map.1 he
    cases hkeys f hf with
    | text hkey =>
        rw [node_eq hkey]
        rfl
  rw [Visit.flatten, hentries, Visit.firstSpecial, List.drop_zero, hnone]
  rfl

/-- A node that is no longer busy is known in the end. -/
theorem settle_advances (h : Advances g [n] v w) (hn : n < g.nodes.size) {cell : Cell}
    (hgoal : cell = goal g n) (hchildren : ∀ m ∈ children g n, Entered w m) :
    Advances g [] v (w.settle n cell) := by
  have hlt : n < w.cells.size := by
    rw [h.progress.size]
    exact hn
  refine ⟨progress_set h.progress hlt (fun m hm => ?_) (fun m hm hne => ?_)
      (.inr ⟨hgoal, hchildren⟩),
    fun m hm => entered_set hlt cell _ (.inr (h.entered m hm)), Nat.le_trans ?_ h.todo_le⟩
  · exact h.progress.collections m (List.mem_append_right _ hm)
  · exact (List.mem_cons.1 hm).resolve_left hne
  · dsimp only [todo, Visit.settle]
    rw [countP_set hlt]
    omega

/-- A list or mapping that was waiting gets known, and so does what it holds. -/
theorem enterCollection_tree (h : Progress g [n] v) :
    ∃ w, v.enterCollection n = .ok w ∧ Advances g [] v w := by
  obtain ⟨t, ht, hne⟩ := h.collections n List.mem_cons_self
  have hn := ht.lt_size
  obtain rfl := h.graph
  cases ht with
  | @text _ m s hnode => exact absurd rfl (hne s)
  | @list _ m items hnode hbehind hitems =>
      obtain ⟨w, hw, hadvance, hall⟩ := enterAll_trees h hitems
      refine ⟨w.settle n (.list (items.map (·.1))), ?_, settle_advances hadvance hn ?_ ?_⟩
      · rw [Visit.enterCollection, node_eq hnode]
        dsimp only
        rw [hw]
        rfl
      · rw [goal, node_eq hnode]
      · rw [children, node_eq hnode]
        intro k hk
        obtain ⟨i, hi, rfl⟩ := List.mem_map.1 hk
        exact hall i hi
  | @mapping _ m fields hnode hnodup hbehind hkeys hfields =>
      obtain ⟨w, hw, hadvance, hall⟩ := enterEntries_fields m h hkeys hfields [] hnodup
      refine ⟨w.settle n (.dict (fields.map fun f => (.str f.name, f.value))), ?_,
        settle_advances hadvance hn ?_ ?_⟩
      · rw [Visit.enterCollection, node_eq hnode]
        dsimp only
        rw [Visit.enterMapping, node_eq hnode]
        dsimp only
        rw [flatten_fields hnode hkeys, bind_ok, Visit.entriesOf, node_eq hnode]
        dsimp only
        rw [List.map_nil] at hw
        rw [hw]
        rfl
      · rw [goal_fields hnode hkeys]
      · rw [children, node_eq hnode]
        intro k hk
        dsimp only at hk
        rw [List.map_map] at hk
        obtain ⟨f, hf, rfl⟩ := List.mem_map.1 hk
        exact hall f hf

/-- **In the end nothing waits**, and everything below the nodes that are known is known. -/
theorem run_tree (fuel : Nat) (h : Progress g [] v) (hfuel : todo v < fuel) :
    ∃ w, Visit.run fuel v = .ok w ∧ Advances g [] v w ∧ w.waiting = [] := by
  induction fuel generalizing v with
  | zero => exact absurd hfuel (Nat.not_lt_zero _)
  | succ fuel ih =>
      cases hwaiting : v.waiting with
      | nil =>
          refine ⟨v, ?_, .refl h, hwaiting⟩
          rw [Visit.run, hwaiting]
      | cons n rest =>
          have hsame : [] ++ v.waiting = [n] ++ rest := hwaiting
          have hbusy : Progress g [n] { v with waiting := rest } :=
            ⟨h.graph, h.size, by rw [← hsame]; exact h.collections, by rw [← hsame]; exact h.cells⟩
          obtain ⟨u, hu, hadvance⟩ := enterCollection_tree hbusy
          have htodo : todo u < fuel := by
            refine Nat.lt_of_le_of_lt hadvance.todo_le ?_
            rw [todo, hwaiting, List.length_cons] at hfuel
            dsimp only [todo]
            omega
          -- the node that was waiting is known now, and no more than before is left to be done
          obtain ⟨w, hw, hadvance', hnil⟩ := ih hadvance.progress htodo
          refine ⟨w, ?_, ⟨hadvance'.progress,
            fun m hm => hadvance'.entered m (hadvance.entered m hm),
            Nat.le_trans hadvance'.todo_le (Nat.le_trans hadvance.todo_le ?_)⟩, hnil⟩
          · rw [Visit.run, hwaiting]
            dsimp only
            rw [hu]
            exact hw
          · rw [todo, todo, hwaiting, List.length_cons]
            dsimp only
            omega

/-! ## Values -/

theorem drop_treeCells (cells : Array (Option Cell)) (last : List (Option Cell)) (n k : Nat) :
    (treeCells cells last n).drop k = treeCells cells (last.drop k) (n + k) := by
  induction k generalizing last n with
  | zero => rfl
  | succ k ih =>
      cases last with
      | nil => rfl
      | cons cell last =>
          show (treeCells cells last (n + 1)).drop k = treeCells cells (last.drop k) (n + (k + 1))
          rw [ih, Nat.add_assoc, Nat.add_comm 1 k]

/-- The value of a later node, as the node in front of it gets it. -/
def childValue (cells : Array (Option Cell)) (n m : NodeId) : Value :=
  ((atom? cells m).orElse fun _ =>
    ((treeCells cells (cells.toList.drop (n + 1)) (n + 1)).drop (m - (n + 1))).head?).getD .null

theorem head?_treeCells {cells : Array (Option Cell)} {cell : Cell}
    (hcell : cells[n]? = some (some cell)) :
    (treeCells cells (cells.toList.drop n) n).head? = some (cell.value (childValue cells n)) := by
  obtain ⟨hlt, hget⟩ := Array.getElem?_eq_some_iff.1 hcell
  have hdrop : cells.toList.drop n = some cell :: cells.toList.drop (n + 1) := by
    rw [List.drop_eq_getElem_cons hlt, Array.getElem_toList, hget]
  rw [hdrop]
  rfl

/-- A child's value is found with the other values, whether it is a scalar or not. -/
theorem childValue_eq {cells : Array (Option Cell)} {m : NodeId} {x : Value} (hlt : n < m)
    (hx : (treeCells cells (cells.toList.drop m) m).head? = some x) : childValue cells n m = x := by
  rw [childValue]
  cases hatom : atom? cells m with
  | some a =>
      have hcell : cells[m]? = some (some (.atom a)) := by
        unfold atom? at hatom
        split at hatom
        · rename_i hcell
          cases hatom
          exact hcell
        · cases hatom
      rw [head?_treeCells hcell] at hx
      cases hx
      rfl
  | none =>
      have hindex : n + 1 + (m - (n + 1)) = m := Nat.add_sub_cancel' hlt
      show (((treeCells cells (cells.toList.drop (n + 1)) (n + 1)).drop
        (m - (n + 1))).head?).getD _ = x
      rw [drop_treeCells, List.drop_drop, hindex, hx, Option.getD_some]

/-- **The value of a node is that of the tree that it holds.** -/
theorem value_eq (h : Progress g [] v) (hwaiting : v.waiting = []) (ht : Holds g n t)
    (hn : Entered v n) : (treeCells v.cells (v.cells.toList.drop n) n).head? = some t.value := by
  have hknown : ∀ m, Entered v m →
      v.cells[m]? = some (some (goal g m)) ∧ ∀ k ∈ children g m, Entered v k := by
    rintro m ⟨cell, hcell⟩
    obtain ⟨rfl, hchildren⟩ := (h.cells m cell hcell).resolve_left fun hm => by
      rw [hwaiting] at hm
      exact List.not_mem_nil hm
    exact ⟨hcell, hchildren⟩
  induction ht with
  | @text n m s hnode =>
      rw [head?_treeCells (hknown n hn).1, goal_text (.text hnode), Cell.value, Tree.value]
  | @list n m items hnode hbehind _ ih =>
      obtain ⟨hcell, hchildren⟩ := hknown n hn
      rw [goal, node_eq hnode] at hcell
      rw [children, node_eq hnode] at hchildren
      rw [head?_treeCells hcell, Cell.value, Tree.value, List.map_map, List.map_map]
      congr 2
      refine List.map_congr_left fun i hi => ?_
      exact childValue_eq (hbehind i hi) (ih i hi (hchildren i.1 (List.mem_map_of_mem hi)))
  | @mapping n m fields hnode _ hbehind hkeys _ _ ih =>
      obtain ⟨hcell, hchildren⟩ := hknown n hn
      rw [goal_fields hnode hkeys] at hcell
      rw [children, node_eq hnode] at hchildren
      dsimp only at hchildren
      rw [List.map_map] at hchildren
      rw [head?_treeCells hcell, Cell.value, Tree.value, List.map_map, List.map_map]
      congr 2
      refine List.map_congr_left fun f hf => ?_
      have hvalue := childValue_eq (hbehind f hf).2
        (ih f hf (hchildren f.value (List.mem_map_of_mem hf)))
      rw [Function.comp_apply, Function.comp_apply, hvalue]

/-- **A graph that holds a tree denotes the value of the tree.** -/
theorem ofGraph_tree (hshared : g.shared = false) (ht : Holds g 0 t) :
    Document.ofGraph g = .ok ⟨t.value, #[]⟩ := by
  let start : Visit := ⟨g, Array.replicate g.nodes.size none, []⟩
  have hstart : Progress g [] start := by
    refine ⟨rfl, Array.size_replicate, fun m hm => absurd hm List.not_mem_nil, fun m cell hm => ?_⟩
    rw [Array.getElem?_replicate] at hm
    split at hm <;> cases hm
  have htodo : todo start = g.nodes.size := by
    simp [todo, start, List.countP_replicate]
  obtain ⟨v, hv, hadvance, hentered⟩ := enter_tree hstart ht
  obtain ⟨w, hw, hadvance', hwaiting⟩ := run_tree (g.nodes.size + 1) hadvance.progress
    (Nat.lt_succ_of_le (htodo ▸ hadvance.todo_le))
  have hroot := value_eq hadvance'.progress hwaiting ht (hadvance'.entered 0 hentered)
  rw [List.drop_zero] at hroot
  rw [Document.ofGraph, hv, bind_ok, hw, bind_ok, hshared, if_neg Bool.false_ne_true, treeRoot,
    hroot, Option.getD_some]

end PackageGate.Yaml
