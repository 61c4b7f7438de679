import PackageGate.Proofs.Yaml.Visit

/-!
# What a text denotes

A text denotes a document in which no mapping has a key twice (`wellKeyed_load`), or nothing. If it
denotes nothing for a fault, then the fault is met while its characters are cut into tokens, or a
node of its graph has no value (`cause_of_fault`).
-/

namespace PackageGate.Yaml

open Value (DistinctKeys WellKeyed wellKeyed_null)
open Visit (CellKeyed Visits)

/-! ## Values -/

/-- In no mapping of a document a key occurs twice. -/
structure Document.WellKeyed (d : Document) : Prop where
  root : d.root.WellKeyed
  cells : ∀ v ∈ d.cells, v.WellKeyed

theorem wellKeyed_value {cell : Cell} {child : NodeId → Value} (h : CellKeyed cell)
    (hchild : ∀ n, (child n).WellKeyed) : (cell.value child).WellKeyed := by
  cases cell with
  | atom v => exact .leaf h
  | list items =>
      refine .list fun v hv => ?_
      obtain ⟨n, _, rfl⟩ := List.mem_map.1 hv
      exact hchild n
  | dict entries =>
      refine .dict (DistinctKeys.map child h) fun e he => ?_
      obtain ⟨f, _, rfl⟩ := List.mem_map.1 he
      exact hchild f.2
  | set keys => exact .leaf trivial
  | pairs items =>
      refine .list fun v hv => ?_
      obtain ⟨e, _, rfl⟩ := List.mem_map.1 hv
      exact .pair (hchild e.1) (hchild e.2)

theorem wellKeyed_atom {g : Graph} {v : Visit} (h : Visits g v) {n : NodeId} {value : Value}
    (hatom : atom? v.cells n = some value) : value.WellKeyed := by
  unfold atom? at hatom
  split at hatom
  · rename_i hn
    cases hatom
    exact .leaf (h.keyed n _ hn)
  · cases hatom

theorem wellKeyed_sharedCells {g : Graph} {v : Visit} (h : Visits g v) :
    ∀ value ∈ sharedCells v.cells, value.WellKeyed := by
  intro value hvalue
  obtain ⟨cell, hcell, rfl⟩ := Array.mem_map.1 hvalue
  cases cell with
  | none => exact wellKeyed_null
  | some cell =>
      obtain ⟨n, hn⟩ := Array.mem_iff_getElem?.1 hcell
      refine wellKeyed_value (h.keyed n cell hn) fun m => ?_
      cases hatom : atom? v.cells m with
      | none => exact .leaf trivial
      | some a => exact wellKeyed_atom h hatom

/-- A value is made of atoms and of values that come later. -/
theorem wellKeyed_treeCells {g : Graph} {v : Visit} (h : Visits g v) {last : List (Option Cell)}
    {n : NodeId} (hlast : ∀ cell, some cell ∈ last → CellKeyed cell) :
    ∀ value ∈ treeCells v.cells last n, value.WellKeyed := by
  induction last generalizing n with
  | nil => exact fun value hvalue => absurd hvalue List.not_mem_nil
  | cons cell last ih =>
      have hlater := ih (n := n + 1) fun c hc => hlast c (List.mem_cons_of_mem cell hc)
      intro value hvalue
      unfold treeCells at hvalue
      rcases List.mem_cons.1 hvalue with rfl | hvalue
      · cases cell with
        | none => exact wellKeyed_null
        | some cell =>
            refine wellKeyed_value (hlast cell List.mem_cons_self) fun m => ?_
            cases hatom : atom? v.cells m with
            | some a => exact wellKeyed_atom h hatom
            | none =>
                -- a collection begins before those it holds
                cases hhead : ((treeCells v.cells last (n + 1)).drop (m - (n + 1))).head? with
                | none => exact wellKeyed_null
                | some a => exact hlater a (List.mem_of_mem_drop (List.mem_of_head? hhead))
      · exact hlater value hvalue

/-- **A graph denotes a document in which no key occurs twice**, or the fault is that of a node
without a value. -/
theorem ofGraph_steps (g : Graph) :
    Steps (Valueless g) Document.WellKeyed (Document.ofGraph g) := by
  unfold Document.ofGraph
  refine (Visit.enter_steps (Visit.visits_start g) 0).bind fun entered hentered => ?_
  refine (Visit.run_steps _ hentered).bind fun v hv => ?_
  split
  · refine ⟨?_, wellKeyed_sharedCells hv⟩
    show (sharedRoot v.cells).WellKeyed
    rw [sharedRoot]
    cases hatom : atom? v.cells 0 with
    | none => exact .leaf trivial
    | some a => exact wellKeyed_atom hv hatom
  · refine ⟨?_, fun c hc => absurd hc (Array.not_mem_empty c)⟩
    show (treeRoot v.cells).WellKeyed
    rw [treeRoot]
    cases hhead : (treeCells v.cells v.cells.toList 0).head? with
    | none => exact wellKeyed_null
    | some a =>
        refine wellKeyed_treeCells hv (fun cell hcell => ?_) a (List.mem_of_head? hhead)
        obtain ⟨n, hn⟩ := Array.mem_iff_getElem?.1 (Array.mem_toList_iff.1 hcell)
        exact hv.keyed n cell hn

/-! ## Texts -/

/-- The four steps of reading, with the first three taken together. -/
theorem load_eq (text : List Char) :
    load text = match text.findIdx? (!isAllowed ·) with
      | some i => .error (.unacceptable ((text[i]?).getD endOfText) i)
      | none => match graphOf text with
        | .error stop => .error (.stopped stop)
        | .ok none => .ok ⟨.null, #[]⟩
        | .ok (some g) => match Document.ofGraph g with
          | .error stop => .error (.stopped stop)
          | .ok d => .ok d := by
  unfold load graphOf
  -- whatever the tokens and the events are
  generalize tokens = cut
  generalize events = parse
  rfl

/-- **In no mapping of a document that is read a key occurs twice.** -/
theorem wellKeyed_load {text : List Char} {d : Document} (h : load text = .ok d) :
    d.WellKeyed := by
  rw [load_eq] at h
  split at h
  · cases h
  · split at h
    · cases h
    · cases h
      exact ⟨wellKeyed_null, fun c hc => absurd hc (Array.not_mem_empty c)⟩
    · rename_i g _
      split at h
      · cases h
      · rename_i hdocument
        have hsteps := ofGraph_steps g
        rw [hdocument] at hsteps
        cases h
        exact hsteps

/-- **A fault is met among the characters, or a node of the text's graph has no value.** -/
theorem cause_of_fault {text : List Char} {f : Fault}
    (h : load text = .error (.stopped (.fault f))) :
    (tokens text).2 = some (.fault f) ∨ ∃ g, graphOf text = .ok (some g) ∧ Valueless g f := by
  rw [load_eq] at h
  split at h
  · cases h
  · split at h
    · rename_i stop hgraph
      cases h
      exact .inl (fault_of_graphOf hgraph)
    · cases h
    · rename_i g hgraph
      split at h
      · rename_i stop hdocument
        have hsteps := ofGraph_steps g
        rw [hdocument] at hsteps
        cases h
        exact .inr ⟨g, hgraph, hsteps f rfl⟩
      · cases h

end PackageGate.Yaml
