import PackageGate.Text.Newline
import PackageGate.Text.Occurrence

/-!
# What line ends do not change

A text that is read from a file has its line ends replaced, each by one line feed. Characters move
to the front in this, and some are gone. Whatever looks at the characters between the line ends
only still sees the same: they occur equally often (`count_unifyNewlines`), a piece of them begins
the text or occurs in it as before (`isPrefixOf_unifyNewlines`, `occurs_unifyNewlines`), and the
text behind such a piece, or behind characters that are skipped together with the line ends, is the
text that was there, with its line ends replaced (`drop_unifyNewlines`, `dropWhile_unifyNewlines`).

The line ends are replaced in one go, which comes to the same as replacing one piece of text by
another twice: first each pair of characters that ends a line, then each carriage return that is
left (`unifyNewlines_eq_replace`).
-/

namespace PackageGate.Text

/-- A piece of a text that lies within a line. -/
def HasNoLineEnd (piece : List Char) : Prop := '\r' ∉ piece ∧ '\n' ∉ piece

instance (piece : List Char) : Decidable (HasNoLineEnd piece) := by
  unfold HasNoLineEnd
  infer_instance

theorem HasNoLineEnd.of_cons {c : Char} {piece : List Char} (h : HasNoLineEnd (c :: piece)) :
    c ≠ '\r' ∧ c ≠ '\n' ∧ HasNoLineEnd piece := by
  obtain ⟨hreturn, hfeed⟩ := h
  obtain ⟨hcr, hrestcr⟩ := List.ne_and_not_mem_of_not_mem_cons hreturn
  obtain ⟨hlf, hrestlf⟩ := List.ne_and_not_mem_of_not_mem_cons hfeed
  exact ⟨hcr.symm, hlf.symm, hrestcr, hrestlf⟩

/-! ## One character after the other -/

theorem unifyNewlines_cons {c : Char} (h : c ≠ '\r') (rest : List Char) :
    unifyNewlines (c :: rest) = c :: unifyNewlines rest := by
  rw [unifyNewlines]
  · intro more hc
    exact absurd hc h
  · intro hc
    exact absurd hc h

/-- A carriage return makes way for a line feed. -/
theorem exists_unifyNewlines_return (rest : List Char) :
    ∃ more, unifyNewlines ('\r' :: rest) = '\n' :: more := by
  cases rest with
  | nil => exact ⟨_, rfl⟩
  | cons d rest =>
      by_cases hd : d = '\n'
      · subst hd
        exact ⟨_, rfl⟩
      · refine ⟨unifyNewlines (d :: rest), ?_⟩
        rw [unifyNewlines]
        intro more hmore
        exact hd (List.cons.inj hmore).1

/-- A text without carriage returns stays as it is. -/
theorem unifyNewlines_of_not_mem {text : List Char} (h : '\r' ∉ text) :
    unifyNewlines text = text := by
  induction text with
  | nil => rfl
  | cons c text ih =>
      obtain ⟨hc, hrest⟩ := List.ne_and_not_mem_of_not_mem_cons h
      rw [unifyNewlines_cons hc.symm, ih hrest]

/-! ## Counting and skipping -/

/-- Characters that end no line occur equally often. -/
theorem count_unifyNewlines {c : Char} (hreturn : c ≠ '\r') (hfeed : c ≠ '\n')
    (text : List Char) : (unifyNewlines text).count c = text.count c := by
  fun_induction unifyNewlines text with
  | case1 => rfl
  | case2 rest ih => simp [ih, hreturn.symm, hfeed.symm]
  | case3 rest _ ih => simp [ih, hreturn.symm, hfeed.symm]
  | case4 d rest _ _ ih => rw [List.count_cons, List.count_cons, ih]

theorem mem_unifyNewlines {c : Char} (hreturn : c ≠ '\r') (hfeed : c ≠ '\n')
    {text : List Char} : c ∈ unifyNewlines text ↔ c ∈ text := by
  rw [← List.count_pos_iff, ← List.count_pos_iff, count_unifyNewlines hreturn hfeed]

/-- Characters are skipped up to the same one, if the ends of lines are skipped as well. -/
theorem dropWhile_unifyNewlines {p : Char → Bool} (hreturn : p '\r' = true)
    (hfeed : p '\n' = true) (text : List Char) :
    (unifyNewlines text).dropWhile p = unifyNewlines (text.dropWhile p) := by
  fun_induction unifyNewlines text with
  | case1 => rfl
  | case2 rest ih =>
      rw [List.dropWhile_cons_of_pos hfeed, List.dropWhile_cons_of_pos hreturn,
        List.dropWhile_cons_of_pos hfeed, ih]
  | case3 rest _ ih =>
      rw [List.dropWhile_cons_of_pos hfeed, List.dropWhile_cons_of_pos hreturn, ih]
  | case4 c rest _ hc ih =>
      cases hp : p c with
      | true => rw [List.dropWhile_cons_of_pos hp, List.dropWhile_cons_of_pos hp, ih]
      | false =>
          have hskip : ¬p c = true := by simp [hp]
          rw [List.dropWhile_cons_of_neg hskip, List.dropWhile_cons_of_neg hskip,
            unifyNewlines_cons hc]

/-! ## Pieces within a line -/

/-- The end of a line begins with no piece that lies within one. -/
theorem isPrefixOf_lineEnd {piece : List Char} (h : HasNoLineEnd piece) (hne : piece ≠ [])
    {c : Char} (hc : c = '\r' ∨ c = '\n') (rest : List Char) :
    piece.isPrefixOf (c :: rest) = false := by
  cases piece with
  | nil => exact absurd rfl hne
  | cons d piece =>
      obtain ⟨hreturn, hfeed, _⟩ := h.of_cons
      have hd : (d == c) = false := by
        rw [beq_eq_false_iff_ne]
        rintro rfl
        exact hc.elim hreturn hfeed
      rw [List.isPrefixOf, hd, Bool.false_and]

/-- A text begins with a piece that lies within a line whatever its line ends are. -/
theorem isPrefixOf_unifyNewlines {piece : List Char} (h : HasNoLineEnd piece)
    (text : List Char) : piece.isPrefixOf (unifyNewlines text) = piece.isPrefixOf text := by
  induction piece generalizing text with
  | nil => simp
  | cons d piece ih =>
      cases text with
      | nil => rfl
      | cons c rest =>
          by_cases hc : c = '\r'
          · subst hc
            obtain ⟨more, hmore⟩ := exists_unifyNewlines_return rest
            rw [hmore, isPrefixOf_lineEnd h (List.cons_ne_nil d piece) (.inr rfl),
              isPrefixOf_lineEnd h (List.cons_ne_nil d piece) (.inl rfl)]
          · rw [unifyNewlines_cons hc, List.isPrefixOf, List.isPrefixOf, ih h.of_cons.2.2]

/-- What stands behind a piece without carriage returns. -/
theorem drop_unifyNewlines {piece : List Char} (h : '\r' ∉ piece) {text : List Char}
    (hstart : piece <+: text) :
    (unifyNewlines text).drop piece.length = unifyNewlines (text.drop piece.length) := by
  obtain ⟨rest, rfl⟩ := hstart
  rw [List.drop_left]
  induction piece with
  | nil => rfl
  | cons c piece ih =>
      obtain ⟨hc, hpiece⟩ := List.ne_and_not_mem_of_not_mem_cons h
      rw [List.cons_append, unifyNewlines_cons hc.symm, List.length_cons, List.drop_succ_cons,
        ih hpiece]

/-- **A piece that lies within a line occurs in a text whatever the line ends are.** -/
theorem occurs_unifyNewlines {piece : List Char} (h : HasNoLineEnd piece) (text : List Char) :
    occurs piece (unifyNewlines text) = occurs piece text := by
  by_cases hne : piece = []
  · rw [hne, occurs_nil_piece, occurs_nil_piece]
  · -- a piece that is not empty begins at no line end, whatever that is made of
    fun_induction unifyNewlines text with
    | case1 => rfl
    | case2 rest ih =>
        rw [occurs, occurs, occurs, isPrefixOf_lineEnd h hne (.inr rfl),
          isPrefixOf_lineEnd h hne (.inl rfl), isPrefixOf_lineEnd h hne (.inr rfl), ih]
        rfl
    | case3 rest _ ih =>
        rw [occurs, occurs, isPrefixOf_lineEnd h hne (.inr rfl),
          isPrefixOf_lineEnd h hne (.inl rfl), ih]
    | case4 c rest _ hc ih =>
        have hstart := isPrefixOf_unifyNewlines h (c :: rest)
        rw [unifyNewlines_cons hc] at hstart
        rw [occurs, occurs, hstart, ih]

/-! ## Single characters as pieces -/

/-- A piece of one character occurs as often as the character. -/
theorem count_singleton (c : Char) (text : List Char) : count [c] text = text.count c := by
  have hcount : countFrom [c] 0 text = text.count c := by
    induction text with
    | nil => rfl
    | cons d rest ih =>
        by_cases hd : d = c
        · subst hd
          rw [countFrom, if_pos (by simp), List.count_cons_self, List.length_singleton, ih]
          omega
        · have hstart : ¬[c].isPrefixOf (d :: rest) = true := by simpa using Ne.symm hd
          rw [countFrom, if_neg hstart, ih, List.count_cons_of_ne hd]
  rw [count, if_neg (by simp), hcount]

/-! ## Line ends as pieces -/

/-- A text with the occurrences found from left to right replaced, where the first `skip`
characters belong to the occurrence found last. -/
def replaceFrom (old new : List Char) : Nat → List Char → List Char
  | _, [] => []
  | skip + 1, _ :: rest => replaceFrom old new skip rest
  | 0, c :: rest =>
    if old.isPrefixOf (c :: rest) then new ++ replaceFrom old new (old.length - 1) rest
    else c :: replaceFrom old new 0 rest

/-- A text with each occurrence of a piece replaced, which must not be empty. -/
def replace (old new text : List Char) : List Char := replaceFrom old new 0 text

/-- **Line ends are replaced, the pairs first and then the carriage returns that remain.** -/
theorem unifyNewlines_eq_replace (text : List Char) :
    unifyNewlines text = replace ['\r'] ['\n'] (replace ['\r', '\n'] ['\n'] text) := by
  have hkept : ∀ {c : Char}, c ≠ '\r' → ∀ rest,
      replace ['\r'] ['\n'] (c :: rest) = c :: replace ['\r'] ['\n'] rest := by
    intro c hc rest
    have hstart : ¬['\r'].isPrefixOf (c :: rest) = true := by simpa using hc.symm
    rw [replace, replaceFrom, if_neg hstart]
    rfl
  fun_induction unifyNewlines text with
  | case1 => rfl
  | case2 rest ih =>
      have hpair : replace ['\r', '\n'] ['\n'] ('\r' :: '\n' :: rest) =
          '\n' :: replace ['\r', '\n'] ['\n'] rest := rfl
      rw [hpair, hkept (by decide), ih]
  | case3 rest hfeed ih =>
      have hstart : ¬['\r', '\n'].isPrefixOf ('\r' :: rest) = true := by
        rw [List.isPrefixOf_iff_prefix, List.cons_prefix_cons]
        rintro ⟨_, more, rfl⟩
        exact hfeed more rfl
      have hpair : replace ['\r', '\n'] ['\n'] ('\r' :: rest) =
          '\r' :: replace ['\r', '\n'] ['\n'] rest := by
        rw [replace, replaceFrom, if_neg hstart]
        rfl
      rw [hpair, ih]
      rfl
  | case4 c rest _ hc ih =>
      have hstart : ¬['\r', '\n'].isPrefixOf (c :: rest) = true := by
        rw [List.isPrefixOf_iff_prefix, List.cons_prefix_cons]
        exact fun h => hc h.1.symm
      have hpair : replace ['\r', '\n'] ['\n'] (c :: rest) =
          c :: replace ['\r', '\n'] ['\n'] rest := by
        rw [replace, replaceFrom, if_neg hstart]
        rfl
      rw [hpair, hkept hc, ih]

end PackageGate.Text
