import PackageGate.Proofs.Yaml.Document
import PackageGate.Proofs.Yaml.TreeValue

/-!
# Reading what has been written

A tree is written in printable ASCII and line feeds (`isWritten_write`). A document in which a
mapping is written denotes the value of the mapping: `load_document` puts the steps of reading
together.
-/

namespace PackageGate.Yaml

/-- A character that occurs in written trees. -/
def IsWritten (c : Char) : Prop := c.toNat = 10 ∨ 32 ≤ c.toNat ∧ c.toNat ≤ 126

instance (c : Char) : Decidable (IsWritten c) :=
  inferInstanceAs (Decidable (c.toNat = 10 ∨ 32 ≤ c.toNat ∧ c.toNat ≤ 126))

/-! ## Characters -/

theorem isAllowed_written {c : Char} (h : IsWritten c) : isAllowed c = true := by
  rcases h with h | ⟨hlow, hhigh⟩
  · simp [isAllowed, h]
  · simp [isAllowed, hlow, hhigh]

theorem isWritten_wordChar {c : Char} (h : IsWordChar c) : IsWritten c := by
  rcases h with hlower | rfl
  · have hbounds : (decide ('a' ≤ c) && decide (c ≤ 'z')) = true := hlower
    rw [Bool.and_eq_true, decide_eq_true_eq, decide_eq_true_eq] at hbounds
    have hlow : 97 ≤ c.toNat := hbounds.1
    have hhigh : c.toNat ≤ 122 := hbounds.2
    exact .inr ⟨by omega, by omega⟩
  · decide

theorem isWritten_quotable {c : Char} (h : Tree.isQuotable c = true) : IsWritten c := by
  simp only [Tree.isQuotable, Bool.and_eq_true, decide_eq_true_eq] at h
  exact .inr ⟨h.1.1.1, h.1.1.2⟩

theorem isWritten_hexDigit {c : Char} (h : Text.IsHexDigit c) : IsWritten c :=
  have hbounds := h.bounds
  .inr ⟨by omega, by omega⟩

variable (sp : Spelling)

theorem isWritten_quoteChar (c : Char) : ∀ d ∈ Tree.quoteChar sp c, IsWritten d := by
  intro d hd
  rw [Tree.quoteChar] at hd
  split at hd
  · rename_i hc
    rw [List.mem_singleton.1 hd]
    exact isWritten_quotable hc
  · rcases List.mem_cons.1 hd with rfl | hd
    · decide
    · rcases List.mem_cons.1 hd with rfl | hd
      · decide
      · exact isWritten_hexDigit (sp.isHexDigit_digits c d hd)

theorem isWritten_quote (s : String) : ∀ c ∈ Tree.quote sp s, IsWritten c := by
  intro c hc
  rw [Tree.quote, List.mem_append, List.mem_cons, List.mem_flatMap, List.mem_singleton] at hc
  rcases hc with (rfl | ⟨d, _, hc⟩) | rfl
  · decide
  · exact isWritten_quoteChar sp d c hc
  · decide

theorem isWritten_newLine (n : Nat) : ∀ c ∈ Tree.newLine n, IsWritten c := by
  intro c hc
  rcases List.mem_cons.1 hc with rfl | hc
  · decide
  · rw [List.eq_of_mem_replicate hc]
    decide

theorem isWritten_lines {column : Nat} {lines : List (List Char)}
    (h : ∀ line ∈ lines, ∀ c ∈ line, IsWritten c) :
    ∀ c ∈ (Tree.newLine column).intercalate lines, IsWritten c := by
  cases lines with
  | nil => exact fun c hc => absurd hc List.not_mem_nil
  | cons line lines =>
      intro c hc
      rw [Tree.intercalate_cons, List.mem_append, List.mem_flatMap] at hc
      rcases hc with hc | ⟨other, hother, hc⟩
      · exact h line List.mem_cons_self c hc
      · rcases List.mem_append.1 hc with hc | hc
        · exact isWritten_newLine column c hc
        · exact h other (List.mem_cons_of_mem line hother) c hc

/-- **A tree is written in printable ASCII and line feeds.** -/
theorem isWritten_write {t : Tree} (ht : t.Sound) (n : Nat) : ∀ c ∈ t.write sp n, IsWritten c := by
  induction ht generalizing n with
  | text s =>
      rw [Tree.write]
      exact isWritten_quote sp s
  | @list items _ ih =>
      cases items with
      | nil =>
          rw [Tree.write]
          exact List.forall_mem_cons.2 ⟨by decide, List.forall_mem_singleton.2 (by decide)⟩
      | cons item items =>
          rw [Tree.write_cons]
          refine isWritten_lines fun line hline c hc => ?_
          obtain ⟨t, ht, rfl⟩ := List.mem_map.1 hline
          rcases List.mem_cons.1 hc with rfl | hc
          · decide
          · rcases List.mem_cons.1 hc with rfl | hc
            · decide
            · exact ih t ht (n + 2) c hc
  | @mapping entries _ hwords _ _ ih =>
      rw [Tree.write]
      refine isWritten_lines fun line hline c hc => ?_
      obtain ⟨e, he, rfl⟩ := List.mem_map.1 hline
      rw [List.mem_append, List.mem_append, List.mem_cons] at hc
      rcases hc with (hc | rfl | hc) | hc
      · exact isWritten_wordChar ((hwords e he).2.2.1 c hc)
      · decide
      · rw [Tree.gap] at hc
        split at hc
        · exact isWritten_newLine (n + 2) c hc
        · rw [List.mem_singleton.1 hc]
          decide
      · exact ih e he (n + 2) c hc

/-! ## Documents -/

/-- A document in which a tree is written. -/
def Tree.document (sp : Spelling) (t : Tree) : List Char := t.write sp 0 ++ ['\n']

theorem isWritten_document {t : Tree} (ht : t.Sound) : ∀ c ∈ t.document sp, IsWritten c := by
  intro c hc
  rcases List.mem_append.1 hc with hc | hc
  · exact isWritten_write sp ht 0 c hc
  · rw [List.mem_singleton.1 hc]
    decide

/-- **A mapping that is written is read as itself.** -/
theorem load_document {entries : List (String × Tree)} (ht : (Tree.mapping entries).Sound)
    (hdepth : (Tree.mapping entries).depth ≤ depthLimit) :
    load ((Tree.mapping entries).document sp) = .ok ⟨(Tree.mapping entries).value, #[]⟩ := by
  have hallowed : ((Tree.mapping entries).document sp).findIdx? (!isAllowed ·) = none := by
    rw [List.findIdx?_eq_none_iff]
    intro c hc
    rw [isAllowed_written (isWritten_document sp ht c hc)]
    rfl
  obtain ⟨ts, htokens, hts⟩ := tokens_write sp ht
  obtain ⟨es, hevents, hes⟩ := Outline.events_of_kinds ht hts
  obtain ⟨g, hgraph, hshared, hholds⟩ := holds_ofEvents ht hdepth hes
  have hbuilt : graphOf ((Tree.mapping entries).document sp) = .ok (some g) := by
    rw [graphOf, Tree.document, htokens]
    dsimp only
    rw [hevents]
    exact hgraph
  rw [load_eq, hallowed]
  dsimp only
  rw [hbuilt]
  dsimp only
  rw [ofGraph_tree hshared hholds]

example : (Tree.mapping [("name", .text "a\"\n"), ("none", .list []),
    ("some", .list [.mapping [("left", .text "b"), ("right", .text "c")]])]).document .lower =
    ("name: \"a\\U00000022\\U0000000a\"\nnone: []\n"
      ++ "some:\n  - left: \"b\"\n    right: \"c\"\n").toList := by cbv

end PackageGate.Yaml
