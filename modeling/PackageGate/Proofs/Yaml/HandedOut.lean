import PackageGate.Proofs.Yaml.Cursor
import PackageGate.Yaml.Token.Stream

/-!
# When tokens are handed out does not matter

Tokens are handed out as soon as no candidate for a key can come to stand in front of them. `Gives`
counts the tokens of a state together with those that are held back, so that handing them out
changes nothing (`gives_handOuts`). What comes from a state on is therefore told by what the next
token is: `Ahead` is about a state whose cursor has been moved to the next token.

A state that has no candidate which must become a key leads to the next token whatever it has held
back (`yields_of_loose`).
-/

namespace PackageGate.Yaml.Scanner

/-- From a state on, tokens of certain kinds are handed out and no mistake is met, in at most `n`
steps. -/
def Gives (s : Scanner) (n : Nat) (kinds : List TokenKind) : Prop :=
  ∀ fuel, n ≤ fuel → ∃ ts, run fuel s = (ts, none) ∧ ts.map (·.kind) = kinds

/-- The kinds of the tokens that are held back. -/
def heldKinds (s : Scanner) : List TokenKind := s.held.map (·.kind)

/-- From a state on, the tokens that are held back are handed out and then some more. -/
def Yields (s : Scanner) (kinds : List TokenKind) : Prop :=
  s.Gives (s.held.length + 2 * kinds.length + 1) (s.heldKinds ++ kinds)

/-- The token at the cursor is read, behind the ends of the blocks that end in front of it. -/
def resume (s : Scanner) : Except Stop Scanner := (s.unwind s.cursor.column).takeToken

/-- From a state with the cursor at a token on, the tokens that are held back are handed out and
then some more. -/
def Ahead (s : Scanner) (kinds : List TokenKind) : Prop :=
  ∃ s', s.resume = .ok s' ∧ s'.Gives (s.held.length + 2 * kinds.length) (s.heldKinds ++ kinds)

/-- No candidate is out of reach. -/
def Fresh (s : Scanner) : Prop := ∀ k ∈ s.candidates, isStale s.cursor k.2 = false

/-- No candidate must become a key, and none stands below the line of the cursor. -/
structure Loose (s : Scanner) : Prop where
  done : s.done = false
  candidates : ∀ k ∈ s.candidates, k.2.required = false
  lines : ∀ k ∈ s.candidates, k.2.place.line ≤ s.cursor.line

section Steps

variable {s s' : Scanner} {n : Nat} {kinds : List TokenKind}

/-! ## Candidates -/

/-- Further down and with fewer candidates there is still none that must become a key. -/
theorem Loose.mono (h : s.Loose) (hdone : s'.done = s.done)
    (hline : s.cursor.line ≤ s'.cursor.line) (hmem : ∀ k ∈ s'.candidates, k ∈ s.candidates) :
    s'.Loose where
  done := hdone.trans h.done
  candidates k hk := h.candidates k (hmem k hk)
  lines k hk := Nat.le_trans (h.lines k (hmem k hk)) hline

theorem loose_nil (hdone : s.done = false) (h : s.candidates = []) : s.Loose where
  done := hdone
  candidates := by simp [h]
  lines := by simp [h]

theorem dropStale_fresh (h : s.Fresh) : s.dropStale = .ok s := by
  have hfind : (s.candidates.find? fun k => isStale s.cursor k.2 && k.2.required) = none := by
    rw [List.find?_eq_none]
    intro k hk
    rw [h k hk]
    exact Bool.false_ne_true
  have hfilter : (s.candidates.filter fun k => !isStale s.cursor k.2) = s.candidates := by
    rw [List.filter_eq_self]
    intro k hk
    rw [h k hk]
    rfl
  rw [dropStale, hfind, hfilter]

theorem dropStale_loose (h : s.Loose) : s.dropStale =
    .ok { s with candidates := s.candidates.filter fun k => !isStale s.cursor k.2 } := by
  have hfind : (s.candidates.find? fun k => isStale s.cursor k.2 && k.2.required) = none := by
    rw [List.find?_eq_none]
    intro k hk
    rw [h.candidates k hk, Bool.and_false]
    exact Bool.false_ne_true
  rw [dropStale, hfind]

/-! ## Steps -/

theorem Gives.mono {m : Nat} (h : s.Gives n kinds) (hle : n ≤ m) : s.Gives m kinds :=
  fun fuel hfuel => h fuel (Nat.le_trans hle hfuel)

theorem gives_done (h : s.done = true) : s.Gives 1 s.heldKinds := by
  intro fuel hfuel
  obtain ⟨fuel, rfl⟩ : ∃ f, fuel = f + 1 := ⟨fuel - 1, by omega⟩
  refine ⟨s.held, ?_, rfl⟩
  rw [run, turn, if_pos h]

/-- A state whose candidates are fresh takes its turn as it is. -/
theorem turn_fresh (hdone : s.done = false) (h : s.held = [] ∨ s.Fresh) : s.turn = s.freshTurn := by
  have hsame : (if s.held.isEmpty then .ok s else s.dropStale) = .ok s := by
    rcases h with hnil | hfresh
    · rw [hnil]
      rfl
    · rw [dropStale_fresh hfresh, ite_self]
  rw [turn, hdone, if_neg Bool.false_ne_true, hsame]

theorem gives_handOut (hdone : s.done = false) (hfresh : s.Fresh) {t : Token} {held : List Token}
    (hheld : s.held = t :: held) (hfree : ∀ k ∈ s.candidates, k.2.number ≠ s.handedOut)
    (h : Gives { s with held := held, handedOut := s.handedOut + 1 } n kinds) :
    s.Gives (n + 1) (t.kind :: kinds) := by
  intro fuel hfuel
  obtain ⟨fuel, rfl⟩ : ∃ f, fuel = f + 1 := ⟨fuel - 1, by omega⟩
  obtain ⟨ts, hts, hkinds⟩ := h fuel (by omega)
  refine ⟨t :: ts, ?_, by rw [List.map_cons, hkinds]⟩
  have hback : s.isHeldBack = false := by
    rw [isHeldBack, hheld, List.isEmpty_cons, Bool.false_or, List.any_eq_false]
    intro k hk
    simpa using hfree k hk
  rw [run, turn_fresh hdone (.inr hfresh), freshTurn, hback, if_neg Bool.false_ne_true, hheld]
  dsimp only
  rw [hts]

theorem gives_advance (hdone : s.done = false)
    (hback : s.held = [] ∨ s.Fresh ∧ ∃ k ∈ s.candidates, k.2.number = s.handedOut)
    (hadvance : s.advance = .ok s') (h : s'.Gives n kinds) : s.Gives (n + 1) kinds := by
  intro fuel hfuel
  obtain ⟨fuel, rfl⟩ : ∃ f, fuel = f + 1 := ⟨fuel - 1, by omega⟩
  obtain ⟨ts, hts, hkinds⟩ := h fuel (by omega)
  refine ⟨ts, ?_, hkinds⟩
  have hheld : s.isHeldBack = true := by
    rw [isHeldBack, Bool.or_eq_true, List.isEmpty_iff, List.any_eq_true]
    refine hback.imp id fun ⟨_, k, hk, hnumber⟩ => ⟨k, hk, by simpa using hnumber⟩
  rw [run, turn_fresh hdone (hback.imp id And.left), freshTurn, hheld, if_pos rfl, hadvance]
  exact hts

/-- Stale candidates may be forgotten at once. -/
theorem gives_dropStale (hheld : s.held ≠ []) (hdrop : s.dropStale = .ok s') (hfresh : s'.Fresh)
    (hsame : s'.held = s.held ∧ s'.done = s.done) (h : s'.Gives n kinds) : s.Gives n kinds := by
  intro fuel hfuel
  cases fuel with
  | zero => exact h 0 hfuel
  | succ fuel =>
      obtain ⟨ts, hts, hkinds⟩ := h (fuel + 1) hfuel
      refine ⟨ts, ?_, hkinds⟩
      -- the turn begins by forgetting them, and does so only once
      have hempty : s.held.isEmpty = false := by simpa using hheld
      have hturn : s.turn = s'.turn := by
        rw [turn, turn, hsame.1, hsame.2, hempty, hdrop, dropStale_fresh hfresh]
        rfl
      rw [← hts, run, run, hturn]

/-! ## Runs -/

/-- **Tokens in front of all candidates are handed out.** -/
theorem gives_handOuts (hdone : s.done = false) (hfresh : s.Fresh) {front held : List Token}
    (hheld : s.held = front ++ held)
    (hfree : ∀ k ∈ s.candidates, s.handedOut + front.length ≤ k.2.number)
    (h : Gives { s with held := held, handedOut := s.handedOut + front.length } n kinds) :
    s.Gives (n + front.length) (front.map (·.kind) ++ kinds) := by
  induction front generalizing s with
  | nil =>
      have hsame : s = { s with held := held, handedOut := s.handedOut } := by
        rw [← List.nil_append held, ← hheld]
      rw [hsame]
      exact h
  | cons t front ih =>
      rw [List.length_cons] at hfree h
      refine gives_handOut hdone hfresh hheld (fun k hk => ?_)
        (ih hdone hfresh rfl (fun k hk => ?_) ?_)
      · have := hfree k hk
        omega
      · have := hfree k hk
        show s.handedOut + 1 + front.length ≤ k.2.number
        omega
      · rw [Nat.add_comm front.length 1, ← Nat.add_assoc] at h
        exact h

/-- **If no candidate must become a key, the next token comes**, whatever is still held back and
whichever candidates are left when the cursor is moved to it. -/
theorem yields_of_loose (hs : s.Loose)
    (h : ∀ held handedOut candidates, (∀ k ∈ candidates, k ∈ s.candidates) →
      ∃ r : Scanner, Scanner.advance { s with held, handedOut, candidates } = r.resume
        ∧ r.held = held ∧ r.Ahead kinds) :
    s.Yields kinds := by
  -- on the tokens that are held back, of which each turn hands out the first
  generalize hheld : s.held = held
  induction held generalizing s with
  | nil =>
      obtain ⟨r, hadvance, hsame, s', hresume, hgives⟩ := h s.held s.handedOut s.candidates
        fun k hk => hk
      rw [Yields, heldKinds, ← hsame]
      exact gives_advance hs.done (.inl hheld) (hadvance.trans hresume) hgives
  | cons t held ih =>
      let fresh : Scanner :=
        { s with candidates := s.candidates.filter fun k => !isStale s.cursor k.2 }
      have hfresh : fresh.Fresh := by
        intro k hk
        simpa using (List.mem_filter.1 hk).2
      have hsub : ∀ k ∈ fresh.candidates, k ∈ s.candidates := fun k hk => (List.mem_filter.1 hk).1
      have hdrop : s.dropStale = .ok fresh := dropStale_loose hs
      have hne : s.held ≠ [] := by
        rw [hheld]
        exact List.cons_ne_nil t held
      refine gives_dropStale hne hdrop hfresh ⟨rfl, rfl⟩ ?_
      by_cases hback : ∃ k ∈ fresh.candidates, k.2.number = s.handedOut
      · -- the first of them may still become a key, so that the next token is read before
        obtain ⟨r, hadvance, hsame, s', hresume, hgives⟩ :=
          h s.held s.handedOut fresh.candidates hsub
        rw [heldKinds, ← hsame]
        exact gives_advance hs.done (.inr ⟨hfresh, hback⟩) (hadvance.trans hresume) hgives
      · -- no key can come to stand in front of the first of them, which is handed out
        have hfree : ∀ k ∈ fresh.candidates, k.2.number ≠ fresh.handedOut :=
          fun k hk hnumber => hback ⟨k, hk, hnumber⟩
        have hrest := ih (s := { fresh with held := held, handedOut := s.handedOut + 1 })
          (hs.mono rfl (Nat.le_refl _) hsub)
          (fun held' handedOut candidates hmem =>
            h held' handedOut candidates fun k hk => hsub k (hmem k hk)) rfl
        have hgives := gives_handOut (s := fresh) hs.done hfresh hheld hfree hrest
        rw [heldKinds, hheld, List.length_cons, List.map_cons]
        refine Gives.mono hgives ?_
        show held.length + 2 * kinds.length + 1 + 1 ≤ _
        omega

end Steps

end PackageGate.Yaml.Scanner
