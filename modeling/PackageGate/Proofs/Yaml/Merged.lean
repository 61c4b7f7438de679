import PackageGate.Proofs.Yaml.Faults

/-!
# What merging keeps

The merging of mappings changes the graph while its nodes are visited: entries are taken over, and
a special key becomes plain text. `Merged` is what it keeps all the same. Scalars keep their texts
and mappings stay mappings, so that what is wrong with a scalar can be told from the graph that was
built. Merging meets no fault (`flatten_merged`).
-/

namespace PackageGate.Yaml

/-- What merging keeps of the nodes of a graph. -/
structure Merged (g g' : Graph) : Prop where
  /-- No node becomes another kind. -/
  kind : ∀ n, (g'.node n).content.kind = (g.node n).content.kind
  /-- A scalar keeps its text. -/
  text : ∀ n s, (g'.node n).content = .scalar s → (g.node n).content = .scalar s
  /-- A node keeps its tag, unless it becomes plain text. -/
  tag : ∀ n, (g'.node n).tag = (g.node n).tag ∨ (g'.node n).tag = .str

namespace Merged

theorem refl (g : Graph) : Merged g g := ⟨fun _ => rfl, fun _ _ h => h, fun _ => .inl rfl⟩

theorem trans {g g' g'' : Graph} (h : Merged g g') (h' : Merged g' g'') : Merged g g'' := by
  refine ⟨fun n => (h'.kind n).trans (h.kind n), fun n s hs => h.text n s (h'.text n s hs),
    fun n => ?_⟩
  rcases h'.tag n with htag | htag
  · rw [htag]
    exact h.tag n
  · exact .inr htag

theorem tag_eq {g g' : Graph} (h : Merged g g') {n : NodeId} {t : Tag}
    (htag : (g'.node n).tag = t) (ht : t ≠ .str) : (g.node n).tag = t := by
  rcases h.tag n with h | h
  · rw [← h, htag]
  · rw [h] at htag
    exact absurd htag.symm ht

end Merged

/-- A change of one node changes that one, or none. -/
theorem node_modify (g : Graph) (n : NodeId) (change : Node → Node) (m : NodeId) :
    Graph.node { g with nodes := g.nodes.modify n change } m = g.node m
      ∨ m = n ∧ Graph.node { g with nodes := g.nodes.modify n change } m = change (g.node m) := by
  unfold Graph.node
  rw [Array.getElem?_modify]
  by_cases hn : n = m
  · rw [if_pos hn]
    cases g.nodes[m]? with
    | none => exact .inl rfl
    | some node => exact .inr ⟨hn.symm, rfl⟩
  · rw [if_neg hn]
    exact .inl rfl

theorem merged_setContent {g : Graph} {n : NodeId} (hn : (g.node n).content.kind = .mapping)
    (entries : List (NodeId × NodeId)) : Merged g (g.setContent n (.mapping entries)) := by
  refine ⟨fun m => ?_, fun m s => ?_, fun m => ?_⟩
  all_goals
    unfold Graph.setContent
    rcases node_modify g n ({ · with content := .mapping entries }) m with h | ⟨rfl, h⟩
  · rw [h]
  · rw [h, hn]
    rfl
  · rw [h]
    exact id
  · rw [h]
    exact fun hs => nomatch hs
  · rw [h]
    exact .inl rfl
  · rw [h]
    exact .inl rfl

theorem merged_setTag (g : Graph) (n : NodeId) : Merged g (g.setTag n .str) := by
  refine ⟨fun m => ?_, fun m s => ?_, fun m => ?_⟩
  all_goals
    unfold Graph.setTag
    rcases node_modify g n ({ · with tag := .str }) m with h | ⟨rfl, h⟩
  · rw [h]
  · rw [h]
  · rw [h]
    exact id
  · rw [h]
    exact id
  · rw [h]
    exact .inl rfl
  · rw [h]
    exact .inr rfl

namespace Visit

/-- A node that has a special entry is a mapping. -/
theorem kind_of_firstSpecial {g : Graph} {n position : Nat} {e : Nat × NodeId × NodeId}
    (h : firstSpecial g position (entriesOf g n) = some e) :
    (g.node n).content.kind = .mapping := by
  unfold entriesOf at h
  split at h
  · rename_i entries hentries
    rw [hentries]
    rfl
  · unfold firstSpecial at h
    rw [List.drop_nil, List.findIdx?_nil] at h
    cases h

/-- Entries have only been taken over if the node is a mapping, which it has been before then. -/
theorem flattenFrom_merged {cause : Fault → Prop} (fuel : Nat) :
    (∀ g n position taken, taken = [] ∨ (g.node n).content.kind = .mapping →
      Steps cause (Merged g) (flattenFrom fuel g n position taken))
    ∧ ∀ g owner items, Steps cause (fun r => Merged g r.1) (flattenEach fuel g owner items) := by
  induction fuel with
  | zero =>
      constructor
      · intro g n position taken _
        rw [flattenFrom]
        exact Steps.tooDeep
      · intro g owner items
        rw [flattenEach]
        exact Steps.tooDeep
  | succ fuel ih =>
      obtain ⟨hfrom, heach⟩ := ih
      constructor
      · intro g n position taken htaken
        rw [flattenFrom]
        dsimp only
        split
        · -- no special entry is left
          cases taken with
          | nil => exact Merged.refl g
          | cons e taken =>
              rcases htaken with h | h
              · exact absurd h (List.cons_ne_nil _ _)
              · exact merged_setContent h _
        · rename_i i key value hspecial
          have hn := kind_of_firstSpecial hspecial
          split
          · have hg := merged_setTag g key
            refine (hfrom _ _ _ _ (.inr ?_)).weaken fun g' h => hg.trans h
            rw [hg.kind, hn]
          · have hg := merged_setContent hn ((entriesOf g n).eraseIdx i)
            split
            · refine (hfrom _ _ _ _ (.inl rfl)).bind fun g₁ h₁ => ?_
              refine (hfrom _ _ _ _ (.inr ?_)).weaken fun g₂ h₂ => (hg.trans h₁).trans h₂
              rw [h₁.kind, hg.kind, hn]
            · refine (heach _ _ _).bind fun r h₁ => ?_
              refine (hfrom _ _ _ _ (.inr ?_)).weaken fun g₂ h₂ => (hg.trans h₁).trans h₂
              rw [h₁.kind, hg.kind, hn]
            · exact Steps.problemIn
      · intro g owner items
        cases items with
        | nil =>
            rw [flattenEach]
            · exact Merged.refl g
            · exact Nat.succ_ne_zero fuel
        | cons i items =>
            rw [flattenEach]
            dsimp only
            split
            · refine (hfrom _ _ _ _ (.inl rfl)).bind fun g₁ h₁ => ?_
              exact (heach _ _ _).bind fun r h₂ => h₁.trans h₂
            · exact Steps.problemIn

/-- **Merging meets no fault**, and keeps what has to be kept. -/
theorem flatten_merged {cause : Fault → Prop} (g : Graph) (n : NodeId) :
    Steps cause (Merged g) (flatten g n) := by
  unfold flatten
  split
  · exact Merged.refl g
  · exact (flattenFrom_merged _).1 _ _ _ _ (.inl rfl)

end Visit

end PackageGate.Yaml
