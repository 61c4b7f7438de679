import PackageGate.Proofs.Markup.Cut
import PackageGate.Markup.Render

/-!
# How an escaped text is read

Escaping changes no piece of a text but its tags, which get one backslash more than twice as many:
an odd number, so that they are plain when the text is read again. `cut_escape` says so for an
escaped text as a part of any other.

Two things are not put right by escaping. A backslash in front of a bracket that opens no tag is
not shown, and of the backslashes at the end only a single one is doubled, which is right in front
of a tag and wrong in front of anything else.
-/

namespace PackageGate.Markup

/-- A piece of a text once the text is escaped. -/
def Piece.escaped : Piece → Piece
  | .tag n body => .tag (2 * n + 1) body
  | other => other

@[simp] theorem written_escaped (p : Piece) : p.escaped.written = p.plain := by
  cases p <;> rfl

/-- The text of the escaped pieces. -/
def plainText (ps : List Piece) : List Char := join (ps.map Piece.escaped)

@[simp] theorem plainText_nil : plainText [] = [] := rfl

@[simp] theorem plainText_cons (p : Piece) (ps : List Piece) :
    plainText (p :: ps) = p.plain ++ plainText ps := by
  simp [plainText]

@[simp] theorem plainText_append (ps qs : List Piece) :
    plainText (ps ++ qs) = plainText ps ++ plainText qs := by
  simp [plainText]

theorem plainText_replicate (n : Nat) : plainText (List.replicate n (.char '\\')) = slashes n := by
  rw [plainText, List.map_replicate]
  exact join_replicate n

theorem flatMap_plain (ps : List Piece) : ps.flatMap (·.plain) = plainText ps := by
  induction ps with
  | nil => rfl
  | cons p ps ih => rw [List.flatMap_cons, ih, plainText_cons]

theorem plainText_tag (n : Nat) (body : List Char) (ps : List Piece) (more : List Char) :
    plainText (.tag n body :: ps) ++ more =
      slashes (2 * n + 1) ++ '[' :: (body ++ ']' :: (plainText ps ++ more)) := by
  simp [Piece.plain]

theorem plainText_bracket (n : Nat) (ps : List Piece) (more : List Char) :
    plainText (.bracket n :: ps) ++ more = slashes n ++ '[' :: (plainText ps ++ more) := by
  rw [plainText_cons, ← written_escaped]
  simp [Piece.escaped, Piece.written]

theorem plainText_char (n : Nat) (c : Char) (ps : List Piece) (more : List Char) :
    plainText (List.replicate n (.char '\\') ++ .char c :: ps) ++ more =
      slashes n ++ c :: (plainText ps ++ more) := by
  rw [plainText_append, plainText_replicate, plainText_cons, ← written_escaped]
  simp [Piece.escaped, Piece.written]

/-! ## Cutting an escaped text -/

/-- A text that begins with a backslash opens no tag. -/
theorem tagBody?_slashes {n : Nat} (hn : 0 < n) (rest : List Char) :
    tagBody? (slashes n ++ rest) = none := by
  obtain ⟨m, rfl⟩ : ∃ m, n = m + 1 := ⟨n - 1, by omega⟩
  have hb : beginsTag '\\' = false := by decide
  rw [slashes, List.replicate_succ, List.cons_append]
  simp [tagBody?, hb]

theorem not_mem_slashes {c : Char} (hc : c ≠ '\\') (n : Nat) : c ∉ slashes n := by
  intro h
  exact hc (List.eq_of_mem_replicate h)

theorem upToBracket_slashes (n : Nat) (rest : List Char) :
    upToBracket (slashes n ++ rest) = slashes n ++ upToBracket rest := by
  rw [upToBracket_append, if_neg (not_mem_slashes (by decide) n)]

/-- Escaping moves no closing bracket to the other side of an opening one. -/
theorem sealed_plainText {n k : Nat} {part : List Char} {ps : List Piece} (h : Cut n part ps k)
    (j : Nat) (hpart : Sealed part) : Sealed (plainText ps ++ slashes j) := by
  have hslash : ∀ m, ']' ∉ slashes m := not_mem_slashes (by decide)
  have hbracket : ∀ m rest, Sealed (slashes m ++ '[' :: rest) := by
    intro m rest
    rw [Sealed, upToBracket_slashes, upToBracket_bracket, List.append_nil]
    exact hslash m
  induction h with
  | nil n => exact sealed_words (hslash j)
  | slash _ ih =>
      refine ih ?_
      rw [Sealed, upToBracket_cons (by decide), List.mem_cons, not_or] at hpart
      exact hpart.2
  | tag _ _ _ =>
      rw [plainText_tag]
      exact hbracket _ _
  | bracket _ _ _ =>
      rw [plainText_bracket]
      exact hbracket _ _
  | char hc hopen _ ih =>
      rw [Sealed, upToBracket_cons hopen, List.mem_cons, not_or] at hpart
      rw [plainText_char, Sealed, upToBracket_slashes, upToBracket_cons hopen, List.mem_append,
        not_or, List.mem_cons, not_or]
      exact ⟨hslash _, hpart.1, ih hpart.2⟩

/-- A bracket that opens no tag opens none after escaping either. -/
theorem tagBody?_plainText {n k : Nat} {part : List Char} {ps : List Piece} (h : Cut n part ps k)
    (j : Nat) (hpart : 0 < n ∨ tagBody? part = none) :
    tagBody? (plainText ps ++ slashes j) = none := by
  have hb : beginsTag '[' = false := by decide
  induction h with
  | nil n =>
      rcases Nat.eq_zero_or_pos j with rfl | hj
      · rfl
      · have := tagBody?_slashes hj []
        rwa [List.append_nil] at this
  | slash _ ih => exact ih (.inl (Nat.succ_pos _))
  | tag _ _ _ =>
      -- a tag behind no backslash has got one
      rw [plainText_tag]
      exact tagBody?_slashes (Nat.succ_pos _) _
  | @bracket n _ _ _ _ _ _ =>
      rw [plainText_bracket]
      rcases Nat.eq_zero_or_pos n with rfl | hn
      · simp [slashes, tagBody?, hb]
      · exact tagBody?_slashes hn _
  | @char n _ c _ _ _ hopen hcut ih =>
      rw [plainText_char]
      rcases Nat.eq_zero_or_pos n with rfl | hn
      · have hnone := hpart.resolve_left (Nat.lt_irrefl 0)
        rw [slashes, List.replicate_zero, List.nil_append]
        cases hc : beginsTag c with
        | false => simp [tagBody?, hc]
        | true =>
            simp only [tagBody?, hc, if_true, Option.map_eq_none_iff,
              untilClosing_eq_none_iff] at hnone ⊢
            -- the character begins a tag, so it is the closing bracket that is missing
            exact sealed_plainText hcut j hnone
      · exact tagBody?_slashes hn _

/-- The text of the escaped pieces is cut into these pieces. -/
theorem Cut.plainText {n k : Nat} {part : List Char} {ps : List Piece} (h : Cut n part ps k)
    (j : Nat) : Cut 0 (plainText ps ++ Markup.slashes j) (ps.map Piece.escaped) j := by
  induction h with
  | nil n =>
      have hend := (Cut.nil j).behind
      rwa [List.append_nil] at hend
  | slash _ ih => exact ih
  | @tag n _ _ body _ _ htag _ ih =>
      rw [plainText_tag, List.map_cons, Piece.escaped]
      exact Cut.behind (.tag (tagBody?_body _ htag) ih)
  | @bracket n _ _ _ htag hcut ih =>
      rw [plainText_bracket, List.map_cons]
      exact Cut.behind (.bracket (tagBody?_plainText hcut j (.inr htag)) ih)
  | @char n _ c _ _ hslash hopen _ ih =>
      rw [plainText_char, List.map_append, List.map_replicate, List.map_cons]
      exact Cut.behind (.char hslash hopen ih)

/-- How many backslashes an escaped text ends with, if the text ends with `k`. -/
def lastSlashes (k : Nat) : Nat := if k = 1 then 2 else k

theorem endsWithSlash_iff {front : List Char} (hfront : front.getLast? ≠ some '\\') (k : Nat) :
    endsWithSlash (front ++ slashes k) = decide (k = 1) := by
  have hrev : front.reverse.head? ≠ some '\\' := by rwa [List.head?_reverse]
  rw [endsWithSlash, List.reverse_append, slashes, List.reverse_replicate]
  by_cases hk : 2 ≤ k
  · obtain ⟨n, rfl⟩ := Nat.exists_eq_add_of_le' hk
    simp [List.replicate_succ]
  · -- what stands before the backslashes is looked at
    have hsmall : k = 0 ∨ k = 1 := by omega
    cases hf : front.reverse with
    | nil => rcases hsmall with rfl | rfl <;> simp
    | cons c rest =>
        rw [hf, List.head?_cons, ne_eq, Option.some.injEq] at hrev
        rcases hsmall with rfl | rfl <;> simp [List.replicate_succ, hrev]

theorem escape_eq {k : Nat} {text : List Char} {ps : List Piece} (h : Cut 0 text ps k) :
    escape text = plainText ps ++ slashes (lastSlashes k) := by
  have hlast : (plainText ps).getLast? ≠ some '\\' := getLast?_join_cut (h.plainText 0)
  have hplain : (split text).flatMap (·.plain) = plainText ps ++ slashes k := by
    rw [flatMap_plain, split_eq h, plainText_append, plainText_replicate]
  simp only [escape, hplain, endsWithSlash_iff hlast, decide_eq_true_eq, lastSlashes]
  split
  · rename_i hk
    subst hk
    simp [slashes, List.replicate_succ]
  · rfl

/-- **An escaped text is read as the text itself, with each tag made plain.** -/
theorem cut_escape {k : Nat} {text : List Char} {ps : List Piece} (h : Cut 0 text ps k) :
    Cut 0 (escape text) (ps.map Piece.escaped) (lastSlashes k) := by
  rw [escape_eq h]
  exact h.plainText _

end PackageGate.Markup
