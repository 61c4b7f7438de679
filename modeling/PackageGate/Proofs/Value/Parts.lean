import Mathlib.Data.List.Perm.Subperm
import PackageGate.Value.Size
import PackageGate.Proofs.Value.Keys

/-!
# The parts of a value

A value is *finite* if it holds no references, so that all of it is written down. What stands in a
list or a mapping is nested less deeply than the list or mapping itself (`depth_item_lt`,
`depth_entry_lt`).

`parts` lists a value and everything that stands in its lists and mappings. A part of a part is a
part (`parts_subset`), and there are no more parts than the value weighs. So a list of different
parts is no longer than that either (`length_le_weight`).
-/

namespace PackageGate.Value

/-- A value without references. -/
inductive IsFinite : Value → Prop where
  | leaf {v : Value} : v.IsLeaf → (∀ n, v ≠ .ref n) → IsFinite v
  | list {items : List Value} : (∀ v ∈ items, IsFinite v) → IsFinite (.list items)
  | dict {entries : List (Value × Value)} : (∀ e ∈ entries, IsFinite e.2) → IsFinite (.dict entries)
  | pair {a b : Value} : IsFinite a → IsFinite b → IsFinite (.pair a b)

theorem IsFinite.item {items : List Value} (h : IsFinite (.list items)) {v : Value}
    (hv : v ∈ items) : IsFinite v := by
  cases h with
  | leaf h => exact h.elim
  | list h => exact h v hv

theorem IsFinite.entry {entries : List (Value × Value)} (h : IsFinite (.dict entries))
    {e : Value × Value} (he : e ∈ entries) : IsFinite e.2 := by
  cases h with
  | leaf h => exact h.elim
  | dict h => exact h e he

/-- There is nothing to see through in a finite value. -/
theorem IsFinite.resolve {v : Value} (h : IsFinite v) (cells : Cells) : v.resolve cells = v := by
  cases v with
  | ref n =>
      cases h with
      | leaf _ hne => exact absurd rfl (hne n)
  | _ => rfl

/-! ## Depth -/

theorem one_le_depth (v : Value) : 1 ≤ v.depth := by
  cases v <;> simp [depth]

theorem depth_le_depthItems {items : List Value} {v : Value} (h : v ∈ items) :
    v.depth ≤ depthItems items := by
  induction items with
  | nil => exact absurd h List.not_mem_nil
  | cons w items ih =>
      rw [depthItems]
      rcases List.mem_cons.1 h with rfl | h
      · exact Nat.le_max_left _ _
      · exact Nat.le_trans (ih h) (Nat.le_max_right _ _)

theorem depth_le_depthEntries {entries : List (Value × Value)} {e : Value × Value}
    (h : e ∈ entries) : e.2.depth ≤ depthEntries entries := by
  induction entries with
  | nil => exact absurd h List.not_mem_nil
  | cons f entries ih =>
      obtain ⟨k, w⟩ := f
      rw [depthEntries]
      rcases List.mem_cons.1 h with rfl | h
      · exact Nat.le_max_left _ _
      · exact Nat.le_trans (ih h) (Nat.le_max_right _ _)

theorem depth_item_lt {items : List Value} {v : Value} (h : v ∈ items) :
    v.depth < (Value.list items).depth := by
  rw [depth]
  exact Nat.lt_succ_of_le (depth_le_depthItems h)

theorem depth_entry_lt {entries : List (Value × Value)} {e : Value × Value} (h : e ∈ entries) :
    e.2.depth < (Value.dict entries).depth := by
  rw [depth]
  exact Nat.lt_succ_of_le (depth_le_depthEntries h)

/-! ## Parts -/

mutual

/-- A value and the parts of what stands in it. -/
def parts : Value → List Value
  | .list items => .list items :: partsOfItems items
  | .dict entries => .dict entries :: partsOfEntries entries
  | v => [v]

/-- The parts of the items. -/
def partsOfItems : List Value → List Value
  | [] => []
  | v :: rest => parts v ++ partsOfItems rest

/-- The parts of the values of the entries. -/
def partsOfEntries : List (Value × Value) → List Value
  | [] => []
  | (_, v) :: rest => parts v ++ partsOfEntries rest

end

theorem self_mem_parts (v : Value) : v ∈ v.parts := by
  cases v <;> simp [parts]

theorem mem_partsOfItems_iff {items : List Value} {p : Value} :
    p ∈ partsOfItems items ↔ ∃ v ∈ items, p ∈ v.parts := by
  induction items with
  | nil => simp [partsOfItems]
  | cons v items ih => simp [partsOfItems, ih]

theorem mem_partsOfEntries_iff {entries : List (Value × Value)} {p : Value} :
    p ∈ partsOfEntries entries ↔ ∃ e ∈ entries, p ∈ e.2.parts := by
  induction entries with
  | nil => simp [partsOfEntries]
  | cons e entries ih =>
      obtain ⟨k, v⟩ := e
      simp [partsOfEntries, ih]

theorem mem_parts_list {items : List Value} {v : Value} (h : v ∈ items) :
    v ∈ (Value.list items).parts := by
  rw [parts]
  exact List.mem_cons_of_mem _ (mem_partsOfItems_iff.2 ⟨v, h, self_mem_parts v⟩)

theorem mem_parts_dict {entries : List (Value × Value)} {e : Value × Value} (h : e ∈ entries) :
    e.2 ∈ (Value.dict entries).parts := by
  rw [parts]
  exact List.mem_cons_of_mem _ (mem_partsOfEntries_iff.2 ⟨e, h, self_mem_parts e.2⟩)

mutual

/-- A part of a part is a part. -/
theorem parts_subset : ∀ (v : Value) {p : Value}, p ∈ v.parts → p.parts ⊆ v.parts
  | .list items, p, h => by
      rw [parts] at h ⊢
      rcases List.mem_cons.1 h with rfl | h
      · rw [parts]
        exact List.Subset.refl _
      · exact List.Subset.trans (partsOfItems_subset items h) (List.subset_cons_self _ _)
  | .dict entries, p, h => by
      rw [parts] at h ⊢
      rcases List.mem_cons.1 h with rfl | h
      · rw [parts]
        exact List.Subset.refl _
      · exact List.Subset.trans (partsOfEntries_subset entries h) (List.subset_cons_self _ _)
  | .null, p, h | .bool _, p, h | .int _, p, h | .float _, p, h | .str _, p, h | .bytes _, p, h
  | .date _, p, h | .moment _, p, h | .set _, p, h | .pair _ _, p, h | .ref _, p, h => by
      rw [parts, List.mem_singleton] at h
      · rw [h]
        exact List.Subset.refl _
      all_goals simp

theorem partsOfItems_subset : ∀ (items : List Value) {p : Value}, p ∈ partsOfItems items →
    p.parts ⊆ partsOfItems items
  | [], p, h => absurd h (by simp [partsOfItems])
  | v :: rest, p, h => by
      rw [partsOfItems] at h ⊢
      rcases List.mem_append.1 h with h | h
      · exact List.Subset.trans (parts_subset v h) (List.subset_append_left _ _)
      · exact List.Subset.trans (partsOfItems_subset rest h) (List.subset_append_right _ _)

theorem partsOfEntries_subset : ∀ (entries : List (Value × Value)) {p : Value},
    p ∈ partsOfEntries entries → p.parts ⊆ partsOfEntries entries
  | [], p, h => absurd h (by simp [partsOfEntries])
  | (_, v) :: rest, p, h => by
      rw [partsOfEntries] at h ⊢
      rcases List.mem_append.1 h with h | h
      · exact List.Subset.trans (parts_subset v h) (List.subset_append_left _ _)
      · exact List.Subset.trans (partsOfEntries_subset rest h) (List.subset_append_right _ _)

end

mutual

theorem length_parts_le : ∀ v : Value, v.parts.length ≤ v.weight
  | .list items => by
      have := length_partsOfItems_le items
      simp only [parts, weight, List.length_cons]
      omega
  | .dict entries => by
      have := length_partsOfEntries_le entries
      simp only [parts, weight, List.length_cons]
      omega
  | .null | .bool _ | .int _ | .float _ | .str _ | .bytes _ | .date _ | .moment _ | .set _
  | .pair _ _ | .ref _ => by simp [parts, weight]

theorem length_partsOfItems_le : ∀ items : List Value,
    (partsOfItems items).length ≤ weightItems items
  | [] => by simp [partsOfItems]
  | v :: rest => by
      have hv := length_parts_le v
      have hrest := length_partsOfItems_le rest
      rw [partsOfItems, weightItems, List.length_append]
      omega

theorem length_partsOfEntries_le : ∀ entries : List (Value × Value),
    (partsOfEntries entries).length ≤ weightEntries entries
  | [] => by simp [partsOfEntries]
  | (_, v) :: rest => by
      have hv := length_parts_le v
      have hrest := length_partsOfEntries_le rest
      rw [partsOfEntries, weightEntries, List.length_append]
      omega

end

/-- No more different parts than the value weighs. -/
theorem length_le_weight {v : Value} {passed : List Value} (hnodup : passed.Nodup)
    (hparts : passed ⊆ v.parts) : passed.length ≤ v.weight :=
  Nat.le_trans (hnodup.subperm hparts).length_le (length_parts_le v)

end PackageGate.Value
