import PackageGate.Markup.Escape

/-!
# Cutting a part of a text

`split` cuts a whole text. The texts of the user are only parts of what is printed: words and tags
of the program stand around them, and whether a bracket at the end of a part opens a tag may depend
on what comes behind.

`Cut n part pieces k` says what becomes of a part wherever it stands: behind `n` backslashes it
consists of `pieces`, and it ends with `k` backslashes that belong to whatever follows. It holds of
the part alone. `splitFrom_append` carries it over to the whole text, provided that the rest is
*sealed*: that it closes no tag which it has not opened.
-/

namespace PackageGate.Markup

/-! ## Where a tag is closed -/

/-- The text up to the first opening bracket. -/
def upToBracket (text : List Char) : List Char := text.takeWhile (· ≠ '[')

@[simp] theorem upToBracket_nil : upToBracket [] = [] := rfl

@[simp] theorem upToBracket_bracket (text : List Char) : upToBracket ('[' :: text) = [] := by
  simp [upToBracket]

theorem upToBracket_cons {c : Char} (hc : c ≠ '[') (text : List Char) :
    upToBracket (c :: text) = c :: upToBracket text := by
  simp [upToBracket, hc]

theorem upToBracket_append (text more : List Char) :
    upToBracket (text ++ more) =
      if '[' ∈ text then upToBracket text else text ++ upToBracket more := by
  induction text with
  | nil => simp
  | cons c text ih =>
      by_cases hc : c = '['
      · subst hc
        simp
      · rw [List.cons_append, upToBracket_cons hc, ih, upToBracket_cons hc]
        by_cases hmem : '[' ∈ text
        · simp [hmem]
        · simp [hmem, Ne.symm hc]

/-- A tag is left open exactly if no closing bracket comes before the next opening one. -/
theorem untilClosing_eq_none_iff (text : List Char) :
    untilClosing text = none ↔ ']' ∉ upToBracket text := by
  induction text with
  | nil => simp [untilClosing]
  | cons c text ih =>
      by_cases hopen : c = '['
      · subst hopen
        simp [untilClosing]
      · by_cases hclose : c = ']'
        · subst hclose
          simp [untilClosing, upToBracket_cons hopen]
        · rw [untilClosing, if_neg hclose, if_neg hopen, Option.map_eq_none_iff, ih,
            upToBracket_cons hopen, List.mem_cons, not_or]
          exact ⟨fun h => ⟨Ne.symm hclose, h⟩, fun h => h.2⟩

/-- What closes a tag first closes it whatever follows. -/
theorem untilClosing_append {text body rest : List Char} (more : List Char)
    (h : untilClosing text = some (body, rest)) :
    untilClosing (text ++ more) = some (body, rest ++ more) := by
  induction text generalizing body with
  | nil => simp [untilClosing] at h
  | cons c text ih =>
      rw [List.cons_append]
      unfold untilClosing at h ⊢
      split at h
      · rename_i hc
        simp only [Option.some.injEq, Prod.mk.injEq] at h
        rw [if_pos hc, ← h.1, ← h.2]
      · rename_i hc
        split at h
        · cases h
        · rename_i hopen
          obtain ⟨⟨b, r⟩, hb, hp⟩ := Option.map_eq_some_iff.1 h
          simp only [Prod.mk.injEq] at hp
          obtain ⟨rfl, rfl⟩ := hp
          rw [if_neg hc, if_neg hopen, ih hb]
          rfl

/-- A body without brackets reaches up to the closing bracket behind it. -/
theorem untilClosing_eq_some {body : List Char} (rest : List Char) (hopen : '[' ∉ body)
    (hclose : ']' ∉ body) : untilClosing (body ++ ']' :: rest) = some (body, rest) := by
  induction body with
  | nil => simp [untilClosing]
  | cons c body ih =>
      rw [List.mem_cons, not_or] at hopen hclose
      rw [List.cons_append, untilClosing, if_neg (Ne.symm hclose.1), if_neg (Ne.symm hopen.1),
        ih hopen.2 hclose.2]
      rfl

theorem not_mem_of_untilClosing {text body rest : List Char}
    (h : untilClosing text = some (body, rest)) : '[' ∉ body ∧ ']' ∉ body := by
  induction text generalizing body with
  | nil => simp [untilClosing] at h
  | cons c text ih =>
      unfold untilClosing at h
      split at h
      · simp only [Option.some.injEq, Prod.mk.injEq] at h
        rw [← h.1]
        simp
      · rename_i hc
        split at h
        · cases h
        · rename_i hopen
          obtain ⟨⟨b, r⟩, hb, hp⟩ := Option.map_eq_some_iff.1 h
          simp only [Prod.mk.injEq] at hp
          obtain ⟨rfl, rfl⟩ := hp
          obtain ⟨h₁, h₂⟩ := ih hb
          exact ⟨by simp [Ne.symm hopen, h₁], by simp [Ne.symm hc, h₂]⟩

/-- What follows an opening bracket makes a tag of it: a character that tags begin with, and a
closing bracket before the next opening one. -/
def OpensTag (text : List Char) : Prop :=
  ∃ c body rest, text = c :: body ++ ']' :: rest ∧ beginsTag c = true ∧ '[' ∉ body

theorem tagBody?_append {text body rest : List Char} (more : List Char)
    (h : tagBody? text = some (body, rest)) :
    tagBody? (text ++ more) = some (body, rest ++ more) := by
  cases text with
  | nil => simp [tagBody?] at h
  | cons c text =>
      cases hc : beginsTag c with
      | false => simp [tagBody?, hc] at h
      | true =>
          simp only [tagBody?, hc, if_true] at h
          obtain ⟨⟨b, r⟩, hb, hp⟩ := Option.map_eq_some_iff.1 h
          simp only [Prod.mk.injEq] at hp
          obtain ⟨rfl, rfl⟩ := hp
          simp [tagBody?, hc, untilClosing_append more hb]

/-- The body of a tag is a character that tags begin with, and no bracket comes behind it. -/
theorem eq_cons_of_tagBody? {text body rest : List Char} (h : tagBody? text = some (body, rest)) :
    ∃ c b, body = c :: b ∧ beginsTag c = true ∧ '[' ∉ b ∧ ']' ∉ b := by
  cases text with
  | nil => simp [tagBody?] at h
  | cons c text =>
      cases hc : beginsTag c with
      | false => simp [tagBody?, hc] at h
      | true =>
          simp only [tagBody?, hc, if_true] at h
          obtain ⟨⟨b, r⟩, hb, hp⟩ := Option.map_eq_some_iff.1 h
          simp only [Prod.mk.injEq] at hp
          obtain ⟨h₁, h₂⟩ := not_mem_of_untilClosing hb
          exact ⟨c, b, hp.1.symm, hc, h₁, h₂⟩

/-- A tag is recognised by its body. -/
theorem tagBody?_eq_some {c : Char} {body : List Char} (rest : List Char)
    (hc : beginsTag c = true) (hopen : '[' ∉ body) (hclose : ']' ∉ body) :
    tagBody? (c :: body ++ ']' :: rest) = some (c :: body, rest) := by
  rw [List.cons_append, tagBody?, if_pos hc, untilClosing_eq_some rest hopen hclose]
  rfl

/-- The body of a tag makes a tag wherever it stands. -/
theorem tagBody?_body {text body rest : List Char} (more : List Char)
    (h : tagBody? text = some (body, rest)) :
    tagBody? (body ++ ']' :: more) = some (body, more) := by
  obtain ⟨c, b, rfl, hc, hopen, hclose⟩ := eq_cons_of_tagBody? h
  exact tagBody?_eq_some more hc hopen hclose

theorem isSome_tagBody?_iff (text : List Char) : (tagBody? text).isSome ↔ OpensTag text := by
  constructor
  · intro h
    obtain ⟨⟨body, rest⟩, h⟩ := Option.isSome_iff_exists.1 h
    obtain ⟨c, b, rfl, hc, hopen, _⟩ := eq_cons_of_tagBody? h
    exact ⟨c, b, rest, eq_of_tagBody? h, hc, hopen⟩
  · rintro ⟨c, body, rest, rfl, hc, hopen⟩
    rw [List.cons_append, tagBody?, if_pos hc, Option.isSome_map, Option.isSome_iff_ne_none, ne_eq,
      untilClosing_eq_none_iff, Classical.not_not]
    -- the first bracket is a closing one: the one of the witness, or an earlier one
    rw [upToBracket_append, if_neg hopen, upToBracket_cons (by decide)]
    simp

/-! ## Parts of a text -/

/-- A text that closes no tag which it has not opened: no closing bracket comes before the first
opening one. -/
def Sealed (rest : List Char) : Prop := ']' ∉ upToBracket rest

theorem sealed_words {words : List Char} (h : ']' ∉ words) : Sealed words :=
  fun hmem => h (List.takeWhile_subset _ hmem)

theorem sealed_bracket (rest : List Char) : Sealed ('[' :: rest) := by
  rw [Sealed, upToBracket_bracket]
  exact List.not_mem_nil

/-- What is left open in a text is left open if a sealed text follows. -/
theorem untilClosing_sealed {text rest : List Char} (hrest : Sealed rest)
    (h : untilClosing text = none) : untilClosing (text ++ rest) = none := by
  rw [untilClosing_eq_none_iff] at h ⊢
  rw [upToBracket_append]
  split
  · exact h
  · rename_i htext
    have hup : upToBracket text = text := by
      have := upToBracket_append text []
      rwa [if_neg htext, List.append_nil, upToBracket_nil, List.append_nil] at this
    rw [hup] at h
    intro hclose
    rcases List.mem_append.1 hclose with hclose | hclose
    · exact h hclose
    · exact hrest hclose

/-- A bracket that opens no tag in a text opens none if a sealed text follows. -/
theorem tagBody?_sealed {text rest : List Char} (hrest : Sealed rest)
    (h : tagBody? text = none) : tagBody? (text ++ rest) = none := by
  have hcons : ∀ (c : Char) (t : List Char), untilClosing t = none → tagBody? (c :: t) = none := by
    intro c t ht
    simp [tagBody?, ht]
  cases text with
  | nil =>
      -- the bracket ends the text, so that the rest alone decides
      cases rest with
      | nil => rfl
      | cons c rest =>
          by_cases hc : c = '['
          · subst hc
            have hb : beginsTag '[' = false := by decide
            simp [tagBody?, hb]
          · refine hcons c rest ?_
            rw [Sealed, upToBracket_cons hc, List.mem_cons, not_or] at hrest
            rw [untilClosing_eq_none_iff]
            exact hrest.2
  | cons c text =>
      rw [List.cons_append]
      cases hc : beginsTag c with
      | false => simp [tagBody?, hc]
      | true =>
          simp only [tagBody?, hc, if_true, Option.map_eq_none_iff] at h
          exact hcons c _ (untilClosing_sealed hrest h)

/-- `Cut n part pieces k`: behind `n` backslashes a part of a text consists of `pieces`, and of `k`
backslashes that belong to what follows. -/
inductive Cut : Nat → List Char → List Piece → Nat → Prop where
  | nil (n : Nat) : Cut n [] [] n
  | slash {n k : Nat} {rest : List Char} {ps : List Piece} :
      Cut (n + 1) rest ps k → Cut n ('\\' :: rest) ps k
  | tag {n k : Nat} {rest body rest' : List Char} {ps : List Piece} :
      tagBody? rest = some (body, rest') → Cut 0 rest' ps k →
      Cut n ('[' :: rest) (.tag n body :: ps) k
  | bracket {n k : Nat} {rest : List Char} {ps : List Piece} :
      tagBody? rest = none → Cut 0 rest ps k → Cut n ('[' :: rest) (.bracket n :: ps) k
  | char {n k : Nat} {c : Char} {rest : List Char} {ps : List Piece} :
      c ≠ '\\' → c ≠ '[' → Cut 0 rest ps k →
      Cut n (c :: rest) (List.replicate n (.char '\\') ++ .char c :: ps) k

/-- Every part can be cut. -/
theorem exists_cut (n : Nat) (part : List Char) : ∃ ps k, Cut n part ps k := by
  induction n, part using splitFrom.induct with
  | case1 n => exact ⟨[], n, .nil n⟩
  | case2 n rest ih =>
      obtain ⟨ps, k, h⟩ := ih
      exact ⟨ps, k, .slash h⟩
  | case3 n rest body rest' htag _ _ ih =>
      obtain ⟨ps, k, h⟩ := ih
      exact ⟨_, k, .tag htag h⟩
  | case4 n rest htag _ ih =>
      obtain ⟨ps, k, h⟩ := ih
      exact ⟨_, k, .bracket htag h⟩
  | case5 n c rest hslash hopen ih =>
      obtain ⟨ps, k, h⟩ := ih
      exact ⟨_, k, .char hslash hopen h⟩

/-- **A part in front of a sealed rest is cut as it is by itself.** -/
theorem splitFrom_append {n k : Nat} {part rest : List Char} {ps : List Piece}
    (h : Cut n part ps k) (hrest : Sealed rest) :
    splitFrom n (part ++ rest) = ps ++ splitFrom k rest := by
  -- that a bracket opens no tag is all that depends on the rest
  induction h with
  | nil n => rfl
  | slash _ ih => rw [List.cons_append, splitFrom_slash, ih]
  | tag htag _ ih =>
      rw [List.cons_append, splitFrom_tag _ (tagBody?_append rest htag), ih, List.cons_append]
  | bracket htag _ ih =>
      rw [List.cons_append, splitFrom_bracket _ (tagBody?_sealed hrest htag), ih, List.cons_append]
  | char hslash hopen _ ih =>
      rw [List.cons_append, splitFrom_char _ _ hslash hopen, ih, List.append_assoc,
        List.cons_append]

theorem split_eq {k : Nat} {text : List Char} {ps : List Piece} (h : Cut 0 text ps k) :
    split text = ps ++ List.replicate k (.char '\\') := by
  have := splitFrom_append h (sealed_words List.not_mem_nil)
  rwa [List.append_nil, splitFrom_nil] at this

/-- Two parts are cut one after the other if the second is sealed. -/
theorem Cut.append {n k j : Nat} {part more : List Char} {ps qs : List Piece}
    (h : Cut n part ps k) (hmore : Sealed more) (h' : Cut k more qs j) :
    Cut n (part ++ more) (ps ++ qs) j := by
  induction h with
  | nil n => exact h'
  | slash _ ih => exact .slash (ih h')
  | tag htag _ ih => exact .tag (tagBody?_append more htag) (ih h')
  | bracket htag _ ih => exact .bracket (tagBody?_sealed hmore htag) (ih h')
  | char hslash hopen _ ih =>
      rw [List.append_assoc]
      exact .char hslash hopen (ih h')

/-- Backslashes are passed over. -/
theorem Cut.slashes {n m k : Nat} {part : List Char} {ps : List Piece}
    (h : Cut (n + m) part ps k) : Cut n (slashes m ++ part) ps k := by
  induction m generalizing n with
  | zero => exact h
  | succ m ih =>
      rw [Markup.slashes, List.replicate_succ, List.cons_append]
      refine .slash (ih ?_)
      rwa [Nat.add_right_comm]

theorem Cut.behind {m k : Nat} {part : List Char} {ps : List Piece} (h : Cut m part ps k) :
    Cut 0 (Markup.slashes m ++ part) ps k := by
  refine Cut.slashes ?_
  rwa [Nat.zero_add]

/-- Words without brackets and backslashes are cut into their characters. -/
theorem Cut.words {words part : List Char} {ps : List Piece} {k : Nat}
    (hwords : ∀ c ∈ words, c ≠ '\\' ∧ c ≠ '[') (h : Cut 0 part ps k) :
    Cut 0 (words ++ part) (words.map .char ++ ps) k := by
  induction words with
  | nil => exact h
  | cons c words ih =>
      obtain ⟨hslash, hopen⟩ := hwords c List.mem_cons_self
      exact .char hslash hopen (ih fun d hd => hwords d (List.mem_cons_of_mem c hd))

/-- Words by themselves. -/
theorem cut_words {words : List Char} (hwords : ∀ c ∈ words, c ≠ '\\' ∧ c ≠ '[') :
    Cut 0 words (words.map .char) 0 := by
  have h := Cut.words hwords (.nil 0)
  rwa [List.append_nil, List.append_nil] at h

/-- Nothing is lost when a part is cut. -/
theorem join_cut {n k : Nat} {part : List Char} {ps : List Piece} (h : Cut n part ps k) :
    join ps ++ slashes k = slashes n ++ part := by
  have hsplit := splitFrom_append h (sealed_words List.not_mem_nil)
  rw [List.append_nil, splitFrom_nil] at hsplit
  have hjoin := join_splitFrom n part
  rwa [hsplit, join_append, join_replicate] at hjoin

/-- The pieces of a part end before its last backslashes. -/
theorem getLast?_join_cut {n k : Nat} {part : List Char} {ps : List Piece} (h : Cut n part ps k) :
    (join ps).getLast? ≠ some '\\' := by
  have hcons : ∀ {p : Piece} {ps : List Piece}, p.written.getLast? ≠ some '\\' →
      (join ps).getLast? ≠ some '\\' → (join (p :: ps)).getLast? ≠ some '\\' := by
    intro p ps hp hps
    rw [join_cons, List.getLast?_append]
    cases hlast : (join ps).getLast? with
    | none => simpa using hp
    | some c => simpa [hlast] using hps
  induction h with
  | nil n => simp
  | slash _ ih => exact ih
  | tag _ _ ih => exact hcons (by rw [Piece.written, List.getLast?_append]; simp) ih
  | bracket _ _ ih => exact hcons (by simp [Piece.written]) ih
  | char hslash _ _ ih =>
      rw [join_append, List.getLast?_append]
      have := hcons (p := .char _) (by simpa [Piece.written] using hslash) ih
      intro hlast
      rw [Option.or_eq_some_iff] at hlast
      rcases hlast with hlast | ⟨hnone, _⟩
      · exact this hlast
      · -- the character itself stands behind the backslashes
        simp [Piece.written] at hnone

end PackageGate.Markup
