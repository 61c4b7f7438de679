import PackageGate.Proofs.Outcome
import PackageGate.Proofs.Value.Keys
import PackageGate.Proofs.Yaml.Merged

/-!
# Scalars with and without a value

A scalar has a value that holds no others, or it has none: its text is none of the kind that its tag
says, or it is a mapping in the place of a moment. `Valueless` says of a graph that there is such a
node in it, as it was built, before any merging.
-/

namespace PackageGate.Yaml

theorem isLeaf_momentValue {text : List Char} {v : Value} (h : momentValue text = .ok v) :
    v.IsLeaf := by
  unfold momentValue at h
  split at h
  · cases h
  · dsimp only at h
    split at h
    · obtain ⟨date, _, h⟩ := bind_eq_ok_iff.1 h
      cases h
      trivial
    · obtain ⟨offset, _, h⟩ := bind_eq_ok_iff.1 h
      obtain ⟨date, _, h⟩ := bind_eq_ok_iff.1 h
      split at h
      · cases h
      · split at h
        · cases h
        · split at h
          · cases h
          · cases h
            trivial

/-- A node has a text: its own, or, if it is a mapping, that of a scalar. -/
def HasText (g : Graph) (n : NodeId) (s : String) : Prop :=
  (g.node n).content = .scalar s
    ∨ (g.node n).content.kind = .mapping ∧ ∃ m, (g.node m).content = .scalar s

/-- A text is none of the kind that a tag says it is, for the fault. -/
def Misfits (text : List Char) (f : Fault) : Tag → Prop
  | .bool => truthValue text = .error (.fault f)
  | .int => wholeValue text = .error (.fault f)
  | .float => fractionValue 0 text = .error (.fault f)
  | .timestamp => momentValue text = .error (.fault f)
  | _ => False

/-- A node has no value, for the fault: its text is none of its kind, or it is a mapping in the
place of a moment. -/
def Valueless (g : Graph) (f : Fault) : Prop :=
  ∃ n, (∃ s, HasText g n s ∧ Misfits s.toList f (g.node n).tag)
    ∨ f = .momentOfMapping ∧ (g.node n).tag = .timestamp ∧ (g.node n).content.kind = .mapping

theorem Merged.hasText {g g' : Graph} (h : Merged g g') {n : NodeId} {s : String}
    (hs : HasText g' n s) : HasText g n s := by
  rcases hs with hs | ⟨hn, m, hm⟩
  · exact .inl (h.text n s hs)
  · rw [h.kind] at hn
    exact .inr ⟨hn, m, h.text m s hm⟩

/-- The node of a number counts only where it is no number, which is no fault. -/
theorem fractionValue_error {own : Nat} {text : List Char} {stop : Stop}
    (h : fractionValue own text = .error stop) : fractionValue 0 text = .error stop := by
  unfold fractionValue at h ⊢
  cases hsign : splitSign (Text.lower (withoutBars text)) with
  | error e =>
      rw [hsign] at h
      exact h
  | ok r =>
      rw [hsign] at h
      dsimp only [bind, Except.bind] at h ⊢
      by_cases hinf : r.2 = ".inf".toList
      · rw [if_pos hinf] at h
        cases h
      · rw [if_neg hinf] at h ⊢
        by_cases hnan : r.2 = ".nan".toList
        · rw [if_pos hnan] at h
          cases h
        · rw [if_neg hnan] at h ⊢
          by_cases hsixty : r.2.contains ':' = true
          · rw [if_pos hsixty] at h ⊢
            split at h
            · exact h
            · split at h
              · exact h
              · cases h
          · rw [if_neg hsixty] at h ⊢
            split at h
            · exact h
            · cases h

namespace Visit

variable {g : Graph}

theorem scalarText_steps {cause : Fault → Prop} (fuel : Nat) (n : NodeId) :
    Steps cause (HasText g n) (scalarText g fuel n) := by
  induction fuel generalizing n with
  | zero => exact Steps.tooDeep
  | succ fuel ih =>
      rw [scalarText]
      split
      · rename_i s hs
        exact .inl hs
      · rename_i entries hentries
        have hn : (g.node n).content.kind = .mapping := by rw [hentries]; rfl
        split
        · refine (ih _).weaken fun s hs => ?_
          rcases hs with hs | ⟨_, hs⟩
          · exact .inr ⟨hn, _, hs⟩
          · exact .inr ⟨hn, hs⟩
        · exact Steps.problemAt
      · exact Steps.problemAt

/-- **A scalar has a value that holds no others**, or the fault is that of a node without one. -/
theorem scalarValue_steps {g' : Graph} (h : Merged g g') (n : NodeId) :
    Steps (Valueless g) (·.IsLeaf) (scalarValue g' n) := by
  unfold scalarValue
  dsimp only
  refine (scalarText_steps _ n).bind fun s hs => ?_
  -- a text that misfits the tag does so in the graph before the merging
  have hmisfits : ∀ {t}, (g'.node n).tag = t → t ≠ .str → ∀ {f}, Misfits s.toList f t →
      Valueless g f := by
    intro t htag ht f hf
    rw [← h.tag_eq htag ht] at hf
    exact ⟨n, .inl ⟨s, h.hasText hs, hf⟩⟩
  split
  · trivial
  · rename_i htag
    have hvalue : Steps (Valueless g) (fun _ => True) (truthValue s.toList) :=
      .of_outcome (fun _ _ => trivial) fun f hf => hmisfits htag (by decide) hf
    exact hvalue.map fun _ _ => trivial
  · rename_i htag
    have hvalue : Steps (Valueless g) (fun _ => True) (wholeValue s.toList) :=
      .of_outcome (fun _ _ => trivial) fun f hf => hmisfits htag (by decide) hf
    exact hvalue.map fun _ _ => trivial
  · rename_i htag
    have hvalue : Steps (Valueless g) (fun _ => True) (fractionValue (n + 1) s.toList) :=
      .of_outcome (fun _ _ => trivial) fun f hf =>
        hmisfits htag (by decide) (fractionValue_error hf)
    exact hvalue.map fun _ _ => trivial
  · split
    · trivial
    · exact Steps.problemAt
  · rename_i htag
    split
    · exact .of_outcome (fun v hv => isLeaf_momentValue hv) fun f hf =>
        hmisfits htag (by decide) hf
    · rename_i hcontent
      intro f hf
      cases hf
      have hmapping : (g.node n).content.kind = .mapping := by
        rcases hs with hs | ⟨hs, _⟩
        · exact absurd hs (hcontent s)
        · rw [← h.kind, hs]
      exact ⟨n, .inr ⟨rfl, h.tag_eq htag (by decide), hmapping⟩⟩
  · trivial

end Visit

end PackageGate.Yaml
