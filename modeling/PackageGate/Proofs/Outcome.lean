/-!
# Computations that may fail

A computation in steps is taken apart at its first step.
-/

namespace PackageGate

theorem bind_ok {ε α β : Type} (a : α) (f : α → Except ε β) : (Except.ok a >>= f) = f a := rfl

/-- A step succeeds if both of its parts do. -/
theorem bind_eq_ok_iff {ε α β : Type} {x : Except ε α} {f : α → Except ε β} {b : β} :
    (x >>= f) = .ok b ↔ ∃ a, x = .ok a ∧ f a = .ok b := by
  cases x with
  | error e => simp [bind, Except.bind]
  | ok a => simp [bind, Except.bind]

/-- What is made of a result is a result. -/
theorem map_eq_ok_iff {ε α β : Type} {f : α → β} {x : Except ε α} {b : β} :
    x.map f = .ok b ↔ ∃ a, x = .ok a ∧ f a = b := by
  cases x with
  | error e => simp [Except.map]
  | ok a => simp [Except.map]

theorem mapError_ok {ε ε' α : Type} (f : ε → ε') (a : α) :
    (Except.ok a : Except ε α).mapError f = .ok a := rfl

/-- A result does not depend on how a failure is worded. -/
theorem mapError_eq_ok_iff {ε ε' α : Type} {f : ε → ε'} {x : Except ε α} {a : α} :
    x.mapError f = .ok a ↔ x = .ok a := by
  cases x with
  | error e => exact iff_of_false nofun nofun
  | ok b => rw [mapError_ok, Except.ok.injEq, Except.ok.injEq]

/-- Where it is known which items fail, all of them succeed if none of these is among them. -/
theorem mapM_eq_ok_iff {ε α β : Type} {f : α → Except ε β} {fails : α → Prop} {value : α → β}
    (hfails : ∀ a, fails a → ∃ e, f a = .error e) (hvalue : ∀ a, ¬fails a → f a = .ok (value a))
    (items : List α) (values : List β) :
    items.mapM f = .ok values ↔ (∀ a ∈ items, ¬fails a) ∧ values = items.map value := by
  induction items generalizing values with
  | nil =>
      rw [List.mapM_nil]
      constructor
      · intro h
        cases h
        exact ⟨fun a ha => absurd ha List.not_mem_nil, rfl⟩
      · rintro ⟨_, rfl⟩
        rfl
  | cons a items ih =>
      rw [List.mapM_cons, List.forall_mem_cons, bind_eq_ok_iff]
      constructor
      · rintro ⟨b, hb, hrest⟩
        obtain ⟨rest, hrest, hvalues⟩ := bind_eq_ok_iff.1 hrest
        obtain ⟨hfree, rfl⟩ := (ih rest).1 hrest
        have ha : ¬fails a := by
          intro ha
          obtain ⟨e, he⟩ := hfails a ha
          cases hb.symm.trans he
        cases hb.symm.trans (hvalue a ha)
        cases hvalues
        exact ⟨⟨ha, hfree⟩, rfl⟩
      · rintro ⟨⟨ha, hfree⟩, rfl⟩
        refine ⟨value a, hvalue a ha, bind_eq_ok_iff.2 ⟨items.map value, ?_, rfl⟩⟩
        exact (ih _).2 ⟨hfree, rfl⟩

end PackageGate
