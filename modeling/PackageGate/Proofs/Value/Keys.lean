import PackageGate.Value.Basic

/-!
# Keys of mappings

A text is the same key as itself and as nothing else, so that the value under a text is that of the
first entry with this very key (`lookup?_eq_find?`). If no key occurs twice, it is the value of the
only such entry. `WellKeyed` says that this holds of every mapping in a value.
-/

namespace PackageGate.Value

/-! ## Textual keys -/

theorem sameKey_str_iff (k : Value) (s : String) : sameKey k (.str s) = true ↔ k = .str s := by
  constructor
  · intro h
    unfold sameKey at h
    split at h
    · rename_i hs
      cases hs
    · cases h
    · cases h
    · cases k with
      | str t => rw [of_decide_eq_true h]
      | _ => cases h
  · intro h
    rw [h]
    exact decide_eq_true rfl

theorem str_sameKey_iff (s : String) (k : Value) : sameKey (.str s) k = true ↔ k = .str s := by
  constructor
  · intro h
    unfold sameKey at h
    split at h
    · rename_i hs _
      cases hs
    · cases h
    · cases h
    · cases k with
      | str t => rw [of_decide_eq_true h]
      | _ => cases h
  · intro h
    rw [h]
    exact decide_eq_true rfl

@[simp] theorem sameKey_str_str (s t : String) : sameKey (.str s) (.str t) = decide (s = t) := rfl

/-- The value under a text is that of the first entry with this key. -/
theorem lookup?_eq_find? (key : String) (entries : List (Value × Value)) :
    lookup? key entries = (entries.find? fun e => sameKey e.1 (.str key)).map (·.2) := by
  induction entries with
  | nil => rfl
  | cons e entries ih =>
      obtain ⟨k, v⟩ := e
      rw [List.find?_cons]
      cases hk : sameKey k (.str key) with
      | true =>
          rw [(sameKey_str_iff k key).1 hk, lookup?, if_pos rfl]
          rfl
      | false =>
          rw [← ih]
          have hne : k ≠ .str key := by
            intro heq
            rw [(sameKey_str_iff k key).2 heq] at hk
            cases hk
          cases k with
          | str s =>
              rw [lookup?, if_neg]
              intro hs
              exact hne (by rw [hs])
          | _ => rfl

theorem mem_of_lookup? {key : String} {entries : List (Value × Value)} {v : Value}
    (h : lookup? key entries = some v) : (.str key, v) ∈ entries := by
  rw [lookup?_eq_find?] at h
  obtain ⟨⟨k, w⟩, hfind, hv⟩ := Option.map_eq_some_iff.1 h
  have hkey := List.find?_some hfind
  dsimp only at hkey
  have hmem := List.mem_of_find?_eq_some hfind
  rwa [(sameKey_str_iff k key).1 hkey, show w = v from hv] at hmem

theorem hasKey_str_iff (key : String) (entries : List (Value × Value)) :
    hasKey (.str key) entries = true ↔ ∃ v, lookup? key entries = some v := by
  rw [lookup?_eq_find?, hasKey]
  cases hfind : entries.find? fun e => sameKey e.1 (.str key) with
  | none =>
      rw [List.find?_eq_none] at hfind
      simp only [Option.map_none, reduceCtorEq, exists_false, iff_false, Bool.not_eq_true]
      rw [List.any_eq_false]
      exact hfind
  | some e =>
      simp only [Option.map_some, Option.some.injEq, exists_eq', iff_true]
      have hkey := List.find?_some hfind
      exact List.any_eq_true.2 ⟨e, List.mem_of_find?_eq_some hfind, hkey⟩

theorem hasKey_str_eq_false_iff (key : String) (entries : List (Value × Value)) :
    hasKey (.str key) entries = false ↔ lookup? key entries = none := by
  rw [← Bool.not_eq_true, hasKey_str_iff, Option.eq_none_iff_forall_ne_some, not_exists]

/-! ## Distinct keys -/

/-- No key occurs twice. -/
def DistinctKeys {α : Type} (entries : List (Value × α)) : Prop :=
  entries.Pairwise fun a b => sameKey a.1 b.1 = false

theorem DistinctKeys.map {α β : Type} {entries : List (Value × α)} (f : α → β)
    (h : DistinctKeys entries) : DistinctKeys (entries.map fun e => (e.1, f e.2)) := by
  rw [DistinctKeys, List.pairwise_map]
  exact h

/-- An entry with a text as its key is the one that is found under the text. -/
theorem lookup?_of_mem {entries : List (Value × Value)} (h : DistinctKeys entries) {key : String}
    {v : Value} (hmem : (.str key, v) ∈ entries) : lookup? key entries = some v := by
  induction entries with
  | nil => exact absurd hmem List.not_mem_nil
  | cons e entries ih =>
      obtain ⟨k, w⟩ := e
      rw [DistinctKeys, List.pairwise_cons] at h
      rcases List.mem_cons.1 hmem with heq | hmem
      · cases heq
        rw [lookup?, if_pos rfl]
      · have hne : k ≠ .str key := by
          intro hk
          have := h.1 _ hmem
          rw [(sameKey_str_iff k key).2 hk] at this
          cases this
        have hrest := ih h.2 hmem
        cases k with
        | str s =>
            rw [lookup?, if_neg, hrest]
            intro hs
            exact hne (by rw [hs])
        | _ => exact hrest

/-- A value that holds no other values. The keys of a set do not count. -/
def IsLeaf : Value → Prop
  | .list _ | .dict _ | .pair _ _ => False
  | _ => True

/-- In no mapping of a value a key occurs twice. -/
inductive WellKeyed : Value → Prop where
  | leaf {v : Value} : v.IsLeaf → WellKeyed v
  | list {items : List Value} : (∀ v ∈ items, WellKeyed v) → WellKeyed (.list items)
  | dict {entries : List (Value × Value)} :
      DistinctKeys entries → (∀ e ∈ entries, WellKeyed e.2) → WellKeyed (.dict entries)
  | pair {a b : Value} : WellKeyed a → WellKeyed b → WellKeyed (.pair a b)

theorem wellKeyed_null : WellKeyed .null := .leaf trivial

@[simp] theorem wellKeyed_str (s : String) : WellKeyed (.str s) := .leaf trivial

@[simp] theorem wellKeyed_list_iff {items : List Value} :
    WellKeyed (.list items) ↔ ∀ v ∈ items, WellKeyed v := by
  refine ⟨fun h => ?_, .list⟩
  cases h with
  | leaf h => exact h.elim
  | list h => exact h

@[simp] theorem wellKeyed_dict_iff {entries : List (Value × Value)} :
    WellKeyed (.dict entries) ↔ DistinctKeys entries ∧ ∀ e ∈ entries, WellKeyed e.2 := by
  refine ⟨fun h => ?_, fun h => .dict h.1 h.2⟩
  cases h with
  | leaf h => exact h.elim
  | dict hkeys h => exact ⟨hkeys, h⟩

theorem WellKeyed.distinctKeys {entries : List (Value × Value)} (h : WellKeyed (.dict entries)) :
    DistinctKeys entries := (wellKeyed_dict_iff.1 h).1

theorem WellKeyed.entry {entries : List (Value × Value)} (h : WellKeyed (.dict entries))
    {e : Value × Value} (he : e ∈ entries) : WellKeyed e.2 := (wellKeyed_dict_iff.1 h).2 e he

theorem WellKeyed.resolve {cells : Cells} {v : Value} (h : WellKeyed v)
    (hcells : ∀ c ∈ cells, WellKeyed c) : WellKeyed (v.resolve cells) := by
  cases v with
  | ref n =>
      rw [Value.resolve]
      cases hc : cells[n]? with
      | none => exact wellKeyed_null
      | some c => exact hcells c (Array.mem_of_getElem? hc)
  | _ => exact h

end PackageGate.Value
