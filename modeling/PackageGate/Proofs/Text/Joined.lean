import PackageGate.Text.Occurrence

/-!
# Texts joined by a character

Where two texts are joined by a character, a piece that does not hold the character does not go over
the seam: each of its occurrences is in one of the two texts (`cut_joined`).
-/

namespace PackageGate.Text

variable {piece front rest : List Char} {c : Char}

/-- **An occurrence in joined texts is in front of the seam or behind it**, with what stands between
it and the seam. -/
theorem cut_joined (hpiece : c ∉ piece) {before behind : List Char}
    (h : before ++ piece ++ behind = front ++ c :: rest) :
    (∃ between, front = before ++ piece ++ between ∧ behind = between ++ c :: rest)
      ∨ ∃ between, before = front ++ c :: between ∧ rest = between ++ piece ++ behind := by
  rcases List.append_eq_append_iff.1 h with ⟨between, hfront, hbehind⟩ | ⟨beyond, hbeyond, hrest⟩
  · exact .inl ⟨between, hfront, hbehind⟩
  · -- the piece ends at the seam or behind it
    cases beyond with
    | nil =>
        rw [List.append_nil] at hbeyond
        rw [List.nil_append] at hrest
        exact .inl ⟨[], by rw [List.append_nil, hbeyond], hrest.symm⟩
    | cons d beyond =>
        obtain ⟨rfl, rfl⟩ := List.cons.inj hrest
        rcases List.append_eq_append_iff.1 hbeyond with
          ⟨start, _, hstart⟩ | ⟨between, hbefore, hend⟩
        · -- it would begin in front of the seam, and so hold the character
          exact absurd (hstart ▸ List.mem_append_right start List.mem_cons_self) hpiece
        · cases between with
          | nil =>
              rw [List.nil_append] at hend
              exact absurd (hend ▸ List.mem_cons_self) hpiece
          | cons e between =>
              obtain ⟨rfl, rfl⟩ := List.cons.inj hend
              exact .inr ⟨between, hbefore, rfl⟩

/-- A piece occurs in joined texts exactly if it occurs in one of the two. -/
theorem isInfix_joined_iff (hpiece : c ∉ piece) :
    piece <:+: front ++ c :: rest ↔ piece <:+: front ∨ piece <:+: rest := by
  constructor
  · rintro ⟨before, behind, h⟩
    rcases cut_joined hpiece h with ⟨between, rfl, _⟩ | ⟨between, _, rfl⟩
    · exact .inl ⟨before, between, rfl⟩
    · exact .inr ⟨between, behind, rfl⟩
  · rintro (⟨before, behind, rfl⟩ | ⟨before, behind, rfl⟩)
    · exact ⟨before, behind ++ c :: rest, by simp only [List.append_assoc]⟩
    · exact ⟨front ++ c :: before, behind, by simp only [List.append_assoc, List.cons_append]⟩

end PackageGate.Text
