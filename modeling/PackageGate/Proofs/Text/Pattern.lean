import PackageGate.Text.Occurrence

/-!
# Patterns

A pattern is a list of parts. A part takes one character of a class, or a run of them. A run takes
as many characters as it can; if the parts behind it do not match what it leaves over, it gives one
character back and they try again, until it has nothing left to give (`matchFront`). A pattern is
searched for at one place of the text after the other (`search`).

`Cuts` says what a match is, without any order in which it is looked for: the text is cut into
pieces, one for each part, and what is left over. The order decides which match is found, but not
whether there is one (`isSome_matchFront_iff`, `isSome_search_iff`).
-/

namespace PackageGate.Text.Pattern

/-- A part of a pattern: one character of a class, or a run of them. -/
inductive Part where
  | one (p : Char → Bool)
  | many (p : Char → Bool)

/-- What is left over behind the match that is found first at the front of a text. -/
def matchFront : List Part → List Char → Option (List Char)
  | [], text => some text
  | .one _ :: _, [] => none
  | .one p :: parts, c :: rest => if p c then matchFront parts rest else none
  | .many _ :: parts, [] => matchFront parts []
  | .many p :: parts, c :: rest =>
    if p c then
      match matchFront (.many p :: parts) rest with
      | some left => some left
      | none => matchFront parts (c :: rest)
    else matchFront parts (c :: rest)
termination_by parts text => (parts.length, text.length)

/-- What is left over behind the first match in a text. -/
def search (parts : List Part) : List Char → Option (List Char)
  | [] => matchFront parts []
  | c :: rest =>
    match matchFront parts (c :: rest) with
    | some left => some left
    | none => search parts rest

/-- The parts of a literal text. -/
def literal (text : List Char) : List Part := text.map fun c => .one (· == c)

/-! ## What a match is -/

/-- A text is cut into one piece for each part, and what is left over. -/
inductive Cuts : List Part → List Char → List Char → Prop where
  | nil {text : List Char} : Cuts [] text text
  | one {p : Char → Bool} {parts : List Part} {c : Char} {rest left : List Char} :
      p c = true → Cuts parts rest left → Cuts (.one p :: parts) (c :: rest) left
  | many {p : Char → Bool} {parts : List Part} {run rest left : List Char} :
      (∀ c ∈ run, p c = true) → Cuts parts rest left → Cuts (.many p :: parts) (run ++ rest) left

section Cuts

variable {p : Char → Bool} {parts : List Part} {text left : List Char}

theorem cuts_one_iff : Cuts (.one p :: parts) text left ↔
    ∃ c rest, text = c :: rest ∧ p c = true ∧ Cuts parts rest left := by
  constructor
  · rintro (_ | ⟨hc, hrest⟩ | _)
    exact ⟨_, _, rfl, hc, hrest⟩
  · rintro ⟨c, rest, rfl, hc, hrest⟩
    exact .one hc hrest

theorem cuts_many_iff : Cuts (.many p :: parts) text left ↔
    ∃ run rest, text = run ++ rest ∧ (∀ c ∈ run, p c = true) ∧ Cuts parts rest left := by
  constructor
  · intro h
    generalize hparts : Part.many p :: parts = all at h
    cases h with
    | nil => cases hparts
    | one => cases hparts
    | many hrun hrest =>
        cases hparts
        exact ⟨_, _, rfl, hrun, hrest⟩
  · rintro ⟨run, rest, rfl, hrun, hrest⟩
    exact .many hrun hrest

/-- A literal text matches itself only. -/
theorem cuts_literal_append_iff (piece : List Char) :
    Cuts (literal piece ++ parts) text left ↔
      ∃ rest, text = piece ++ rest ∧ Cuts parts rest left := by
  induction piece generalizing text with
  | nil =>
      constructor
      · intro h
        exact ⟨text, rfl, h⟩
      · rintro ⟨rest, rfl, h⟩
        exact h
  | cons d piece ih =>
      rw [literal, List.map_cons, List.cons_append, cuts_one_iff]
      constructor
      · rintro ⟨c, rest, rfl, hc, hrest⟩
        obtain ⟨more, rfl, hmore⟩ := ih.1 hrest
        rw [beq_iff_eq.1 hc]
        exact ⟨more, rfl, hmore⟩
      · rintro ⟨rest, rfl, hrest⟩
        exact ⟨d, piece ++ rest, rfl, beq_self_eq_true d, ih.2 ⟨rest, rfl, hrest⟩⟩

/-- A run takes nothing, or its first character and a run behind it. -/
theorem cuts_many_cons_iff {c : Char} {rest : List Char} :
    Cuts (.many p :: parts) (c :: rest) left ↔
      Cuts parts (c :: rest) left ∨ p c = true ∧ Cuts (.many p :: parts) rest left := by
  rw [cuts_many_iff, cuts_many_iff]
  constructor
  · rintro ⟨run, more, htext, hrun, hmore⟩
    cases run with
    | nil =>
        rw [List.nil_append] at htext
        exact .inl (htext ▸ hmore)
    | cons d run =>
        obtain ⟨rfl, rfl⟩ := List.cons.inj htext
        rw [List.forall_mem_cons] at hrun
        exact .inr ⟨hrun.1, run, more, rfl, hrun.2, hmore⟩
  · rintro (h | ⟨hc, run, more, rfl, hrun, hmore⟩)
    · exact ⟨[], c :: rest, rfl, fun d hd => absurd hd List.not_mem_nil, h⟩
    · exact ⟨c :: run, more, rfl, List.forall_mem_cons.2 ⟨hc, hrun⟩, hmore⟩

theorem cuts_many_nil_iff : Cuts (.many p :: parts) [] left ↔ Cuts parts [] left := by
  rw [cuts_many_iff]
  constructor
  · rintro ⟨run, rest, htext, _, hrest⟩
    obtain ⟨_, rfl⟩ := List.append_eq_nil_iff.1 htext.symm
    exact hrest
  · intro h
    exact ⟨[], [], rfl, fun d hd => absurd hd List.not_mem_nil, h⟩

end Cuts

/-! ## Looking for a match -/

/-- **A match is found at the front exactly if the text can be cut there**, whatever the runs take
first. -/
theorem isSome_matchFront_iff (parts : List Part) (text : List Char) :
    (matchFront parts text).isSome = true ↔ ∃ left, Cuts parts text left := by
  fun_induction matchFront parts text with
  | case1 text => exact ⟨fun _ => ⟨text, .nil⟩, fun _ => rfl⟩
  | case2 p parts =>
      constructor
      · intro h
        cases h
      · rintro ⟨left, h⟩
        obtain ⟨c, rest, htext, _⟩ := cuts_one_iff.1 h
        cases htext
  | case3 p parts c rest hc ih =>
      rw [ih]
      constructor
      · rintro ⟨left, h⟩
        exact ⟨left, .one hc h⟩
      · rintro ⟨left, h⟩
        obtain ⟨_, _, htext, _, hrest⟩ := cuts_one_iff.1 h
        obtain ⟨rfl, rfl⟩ := List.cons.inj htext
        exact ⟨left, hrest⟩
  | case4 p parts c rest hc =>
      constructor
      · intro h
        cases h
      · rintro ⟨left, h⟩
        obtain ⟨_, _, htext, hp, _⟩ := cuts_one_iff.1 h
        obtain ⟨rfl, rfl⟩ := List.cons.inj htext
        exact absurd hp hc
  | case5 p parts ih => simp only [ih, cuts_many_nil_iff]
  | case6 p parts c rest hc left hfound ih =>
      -- the run goes on and the rest matches
      rw [hfound] at ih
      obtain ⟨left', h⟩ := ih.1 rfl
      exact ⟨fun _ => ⟨left', cuts_many_cons_iff.2 (.inr ⟨hc, h⟩)⟩, fun _ => rfl⟩
  | case7 p parts c rest hc hnone ihmore ihstop =>
      -- however far the run goes on, the rest does not match, so the run ends here
      rw [hnone] at ihmore
      rw [ihstop]
      constructor
      · rintro ⟨left, h⟩
        exact ⟨left, cuts_many_cons_iff.2 (.inl h)⟩
      · rintro ⟨left, h⟩
        rcases cuts_many_cons_iff.1 h with h | ⟨_, h⟩
        · exact ⟨left, h⟩
        · exact absurd (ihmore.2 ⟨left, h⟩) Bool.false_ne_true
  | case8 p parts c rest hc ih =>
      rw [ih]
      constructor
      · rintro ⟨left, h⟩
        exact ⟨left, cuts_many_cons_iff.2 (.inl h)⟩
      · rintro ⟨left, h⟩
        rcases cuts_many_cons_iff.1 h with h | ⟨hp, _⟩
        · exact ⟨left, h⟩
        · exact absurd hp hc

/-- **A pattern is found in a text exactly if the text can be cut behind some front.** -/
theorem isSome_search_iff (parts : List Part) (text : List Char) :
    (search parts text).isSome = true ↔
      ∃ front rest left, text = front ++ rest ∧ Cuts parts rest left := by
  induction text with
  | nil =>
      rw [search, isSome_matchFront_iff]
      constructor
      · rintro ⟨left, h⟩
        exact ⟨[], [], left, rfl, h⟩
      · rintro ⟨front, rest, left, htext, h⟩
        obtain ⟨_, rfl⟩ := List.append_eq_nil_iff.1 htext.symm
        exact ⟨left, h⟩
  | cons c text ih =>
      rw [search]
      have hhere := isSome_matchFront_iff parts (c :: text)
      cases hfound : matchFront parts (c :: text) with
      | some left =>
          rw [hfound] at hhere
          obtain ⟨left', h⟩ := hhere.1 rfl
          exact ⟨fun _ => ⟨[], c :: text, left', rfl, h⟩, fun _ => rfl⟩
      | none =>
          rw [hfound] at hhere
          dsimp only
          rw [ih]
          constructor
          · rintro ⟨front, rest, left, rfl, h⟩
            exact ⟨c :: front, rest, left, rfl, h⟩
          · rintro ⟨front, rest, left, htext, h⟩
            cases front with
            | nil =>
                rw [List.nil_append] at htext
                exact absurd (hhere.2 ⟨left, htext ▸ h⟩) Bool.false_ne_true
            | cons d front => exact ⟨front, rest, left, (List.cons.inj htext).2, h⟩

end PackageGate.Text.Pattern
