import PackageGate.Yaml.Token.Quoted

/-!
# Moving along a line

Most characters take one column. Behind some of them on the same line a cursor is `past` them; a
line feed leads to the beginning of the next line. What a cursor skips on its way to a token is
given by the characters ahead.
-/

namespace PackageGate.Yaml

/-- A character that takes a column of its line. -/
def IsInline (c : Char) : Prop := isBreak c = false ∧ c ≠ byteOrderMark

instance (c : Char) : Decidable (IsInline c) :=
  inferInstanceAs (Decidable (isBreak c = false ∧ c ≠ byteOrderMark))

namespace Cursor

/-- The cursor behind the next `n` characters, if each takes a column and `rest` is what follows. -/
def past (c : Cursor) (n : Nat) (rest : List Char) : Cursor where
  rest := rest
  index := c.index + n
  line := c.line
  column := c.column + n

@[simp] theorem past_rest (c : Cursor) (n : Nat) (rest : List Char) :
    (c.past n rest).rest = rest := rfl

@[simp] theorem past_index (c : Cursor) (n : Nat) (rest : List Char) :
    (c.past n rest).index = c.index + n := rfl

@[simp] theorem past_line (c : Cursor) (n : Nat) (rest : List Char) :
    (c.past n rest).line = c.line := rfl

@[simp] theorem past_column (c : Cursor) (n : Nat) (rest : List Char) :
    (c.past n rest).column = c.column + n := rfl

@[simp] theorem past_past (c : Cursor) (m n : Nat) (front rest : List Char) :
    (c.past m front).past n rest = c.past (m + n) rest := by
  simp only [past, Nat.add_assoc]

theorem past_zero {c : Cursor} {rest : List Char} (h : c.rest = rest) : c.past 0 rest = c := by
  rw [← h]
  rfl

theorem head_eq {c : Cursor} {ch : Char} {rest : List Char} (h : c.rest = ch :: rest) :
    c.head = ch := by
  rw [head, h]
  rfl

theorem peek_one {c : Cursor} {ch next : Char} {rest : List Char}
    (h : c.rest = ch :: next :: rest) : c.peek 1 = next := by
  rw [peek, h]
  rfl

theorem next_inline {c : Cursor} {ch : Char} {rest : List Char} (hch : IsInline ch)
    (h : c.rest = ch :: rest) : c.next = c.past 1 rest := by
  rw [next, h]
  dsimp only
  rw [hch.1, Bool.false_and, if_neg Bool.false_ne_true, if_neg hch.2]
  rfl

theorem next_newline {c : Cursor} {rest : List Char} (h : c.rest = '\n' :: rest) :
    c.next = ⟨rest, c.index + 1, c.line + 1, 0⟩ := by
  rw [next, h]
  rfl

theorem advance_inline {text : List Char} (htext : ∀ ch ∈ text, IsInline ch) {c : Cursor}
    {rest : List Char} (h : c.rest = text ++ rest) :
    c.advance text.length = c.past text.length rest := by
  induction text generalizing c with
  | nil => exact (past_zero h).symm
  | cons ch text ih =>
      have hnext := next_inline (htext ch List.mem_cons_self) h
      rw [List.length_cons, advance, hnext,
        ih (fun d hd => htext d (List.mem_cons_of_mem ch hd)) rfl, past_past, Nat.add_comm]

theorem lineBreak?_eq_none {c : Cursor} (h : isBreak c.head = false) : c.lineBreak? = none := by
  simp only [isBreak, Bool.or_eq_false_iff, decide_eq_false_iff_not] at h
  obtain ⟨⟨⟨⟨hfeed, hreturn⟩, hnext⟩, hline⟩, hparagraph⟩ := h
  simp [lineBreak?, hfeed, hreturn, hnext, hline, hparagraph]

theorem lineBreak?_newline {c : Cursor} {rest : List Char} (h : c.rest = '\n' :: rest) :
    c.lineBreak? = some ('\n', ⟨rest, c.index + 1, c.line + 1, 0⟩) := by
  rw [lineBreak?, head_eq h, next_newline h]
  rfl

theorem span_append {p : Char → Bool} {c : Cursor} {text rest : List Char}
    (htext : ∀ ch ∈ text, p ch = true) (hrest : ∀ ch ∈ rest.head?, p ch = false)
    (h : c.rest = text ++ rest) : c.span p = text := by
  rw [span, h, List.takeWhile_append_of_pos htext]
  cases rest with
  | nil => simp
  | cons ch rest => simp [hrest ch rfl]

theorem skipSpaces_eq {c : Cursor} {n : Nat} {rest : List Char} (hrest : ' ' ∉ rest.head?)
    (h : c.rest = List.replicate n ' ' ++ rest) : c.skipSpaces = c.past n rest := by
  have hspaces : ∀ ch ∈ List.replicate n ' ', IsInline ch := by
    intro ch hch
    rw [List.eq_of_mem_replicate hch]
    decide
  have hspan : c.span (· = ' ') = List.replicate n ' ' := by
    refine span_append (fun ch hch => ?_) (fun ch hch => ?_) h
    · rw [List.eq_of_mem_replicate hch]
      rfl
    · rw [decide_eq_false_iff_not]
      rintro rfl
      exact hrest hch
  have hadvance := advance_inline hspaces h
  rw [List.length_replicate] at hadvance
  rw [skipSpaces, skip, hspan, List.length_replicate, hadvance]

theorem skipComment_eq {c : Cursor} (h : c.head ≠ '#') : c.skipComment = c := by
  rw [skipComment, if_neg h]

end Cursor

end PackageGate.Yaml
