import PackageGate.Proofs.Yaml.Scalars

/-!
# What holds during a visit

While the nodes of a graph are visited, the graph is only merged, and no mapping gets a key twice: a
key that is set again keeps its place and gets the new value (`putNode_distinct`). `Visits` is this
invariant. Each step keeps it, or fails; and if it fails for a fault, then a node of the graph has
no value.
-/

namespace PackageGate.Yaml

open Value (DistinctKeys)

namespace Visit

/-- Setting a key makes no key occur twice. -/
theorem putNode_distinct {key : Value} {n : NodeId} {entries : List (Value × NodeId)}
    (h : DistinctKeys entries) : DistinctKeys (putNode key n entries) := by
  -- the keys of the new entries are the old ones and the one that is set
  have hmem : ∀ {l : List (Value × NodeId)} {e : Value × NodeId}, e ∈ putNode key n l →
      e.1 = key ∨ ∃ m, (e.1, m) ∈ l := by
    intro l e he
    induction l with
    | nil =>
        rw [List.mem_singleton.1 he]
        exact .inl rfl
    | cons d l ih =>
        rw [putNode] at he
        split at he
        · rcases List.mem_cons.1 he with he | he
          · rw [he]
            exact .inr ⟨d.2, List.mem_cons_self⟩
          · exact .inr ⟨e.2, List.mem_cons_of_mem d he⟩
        · rcases List.mem_cons.1 he with he | he
          · rw [he]
            exact .inr ⟨d.2, List.mem_cons_self⟩
          · rcases ih he with hkey | ⟨m, hm⟩
            · exact .inl hkey
            · exact .inr ⟨m, List.mem_cons_of_mem d hm⟩
  induction entries with
  | nil => exact List.pairwise_singleton _ _
  | cons d entries ih =>
      rw [DistinctKeys, List.pairwise_cons] at h
      rw [putNode]
      split
      · exact List.pairwise_cons.2 ⟨h.1, h.2⟩
      · rename_i hd
        refine List.pairwise_cons.2 ⟨fun e he => ?_, ih h.2⟩
        rcases hmem he with hkey | ⟨m, hm⟩
        · rw [hkey, ← Bool.not_eq_true]
          exact hd
        · exact h.1 (e.1, m) hm

/-- A cell in which no key occurs twice, and whose value holds no others if it is a scalar. -/
def CellKeyed : Cell → Prop
  | .atom v => v.IsLeaf
  | .dict entries => DistinctKeys entries
  | _ => True

/-- The visit of a graph: it has only been merged, and all cells that are known so far are well
keyed. -/
structure Visits (g : Graph) (v : Visit) : Prop where
  merged : Merged g v.graph
  keyed : ∀ (n : NodeId) (cell : Cell), v.cells[n]? = some (some cell) → CellKeyed cell

variable {g : Graph} {v : Visit}

theorem visits_start (g : Graph) : Visits g ⟨g, Array.replicate g.nodes.size none, []⟩ := by
  refine ⟨Merged.refl g, fun n cell hn => ?_⟩
  rw [Array.getElem?_replicate] at hn
  split at hn <;> cases hn

theorem Visits.set (h : Visits g v) (cell : Cell) (hcell : CellKeyed cell) (n : NodeId)
    (waiting : List NodeId) :
    Visits g ⟨v.graph, v.cells.setIfInBounds n (some cell), waiting⟩ := by
  refine ⟨h.merged, fun m c hc => ?_⟩
  rw [Array.getElem?_setIfInBounds] at hc
  split at hc
  · split at hc
    · cases hc
      exact hcell
    · cases hc
  · exact h.keyed m c hc

theorem enter_steps (h : Visits g v) (n : NodeId) :
    Steps (Valueless g) (Visits g) (v.enter n) := by
  unfold enter
  split
  · exact h
  · dsimp only
    split
    · exact h.set (.list []) trivial n _
    · exact h.set (.dict []) List.Pairwise.nil n _
    · exact h.set (.set []) trivial n _
    · exact h.set (.pairs []) trivial n _
    · exact h.set (.pairs []) trivial n _
    · exact Steps.problemAt
    · exact Steps.problemAt
    · exact Steps.problemAt
    · refine (scalarValue_steps h.merged n).bind fun value hvalue => ?_
      exact h.set (.atom value) hvalue n _

theorem enterAll_steps (h : Visits g v) (nodes : List NodeId) :
    Steps (Valueless g) (Visits g) (v.enterAll nodes) := by
  induction nodes generalizing v with
  | nil => exact h
  | cons n nodes ih =>
      rw [enterAll, List.foldlM_cons]
      exact (enter_steps h n).bind fun w hw => ih hw

theorem enterEntries_steps (owner : Mark) (entries : List (NodeId × NodeId)) (h : Visits g v)
    {done : List (Value × NodeId)} (hdone : DistinctKeys done) :
    Steps (Valueless g) (fun r => Visits g r.1 ∧ DistinctKeys r.2)
      (enterEntries owner entries v done) := by
  induction entries generalizing v done with
  | nil => exact ⟨h, hdone⟩
  | cons e entries ih =>
      rw [enterEntries]
      refine (enter_steps h e.1).bind fun w hw => ?_
      split
      · exact Steps.problemIn
      · exact (enter_steps hw e.2).bind fun x hx => ih hx (putNode_distinct hdone)

/-- Merging leaves the cells alone, and the entries that it brings are set like any others. -/
theorem enterMapping_steps (h : Visits g v) (n : NodeId) :
    Steps (Valueless g) (fun r => Visits g r.1 ∧ DistinctKeys r.2) (v.enterMapping n) := by
  unfold enterMapping
  dsimp only
  split
  · refine (flatten_merged v.graph n).bind fun g' hg' => ?_
    have h' : Visits g { v with graph := g' } := ⟨h.merged.trans hg', h.keyed⟩
    exact enterEntries_steps _ _ h' List.Pairwise.nil
  · exact Steps.problemAt

theorem enterPairs_steps (activity : Activity) (owner : Mark) (items : List NodeId)
    (h : Visits g v) (done : List (NodeId × NodeId)) :
    Steps (Valueless g) (fun r => Visits g r.1) (enterPairs activity owner items v done) := by
  induction items generalizing v done with
  | nil => exact h
  | cons i items ih =>
      rw [enterPairs]
      split
      · exact (enter_steps h _).bind fun w hw => (enter_steps hw _).bind fun x hx => ih hx _
      · exact Steps.problemIn
      · exact Steps.problemIn

theorem enterCollection_steps (h : Visits g v) (n : NodeId) :
    Steps (Valueless g) (Visits g) (v.enterCollection n) := by
  unfold enterCollection
  dsimp only
  split
  · split
    · rename_i items _
      exact (enterAll_steps h items).bind fun w hw => hw.set (.list items) trivial n _
    · exact Steps.problemAt
  · exact (enterMapping_steps h n).bind fun r hr => hr.1.set (.dict r.2) hr.2 n _
  · exact (enterMapping_steps h n).bind fun r hr => hr.1.set (.set _) trivial n _
  · split
    · exact (enterPairs_steps _ _ _ h []).bind fun r hr => hr.set (.pairs _) trivial n _
    · exact Steps.problemIn

/-- **The visit keeps its invariant** until no collection waits any more. -/
theorem run_steps (fuel : Nat) (h : Visits g v) : Steps (Valueless g) (Visits g) (run fuel v) := by
  induction fuel generalizing v with
  | zero => exact h
  | succ fuel ih =>
      rw [run]
      split
      · exact h
      · rename_i n rest _
        have hrest : Visits g { v with waiting := rest } := ⟨h.merged, h.keyed⟩
        exact (enterCollection_steps hrest n).bind fun w hw => ih hw

end Visit

end PackageGate.Yaml
