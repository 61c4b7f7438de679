/-!
# Pieces between separators

A text is cut at every occurrence of a character. There is one piece more than there are
separators, and pieces may be empty.
-/

namespace PackageGate.Text

/-- The pieces of a text between the occurrences of a character. -/
def splitAt (separator : Char) : List Char → List (List Char)
  | [] => [[]]
  | c :: rest =>
    match splitAt separator rest with
    | [] => [[c]]
    | piece :: more => if c = separator then [] :: piece :: more else (c :: piece) :: more

theorem splitAt_ne_nil (separator : Char) : ∀ text : List Char, splitAt separator text ≠ []
  | [] => by simp [splitAt]
  | c :: rest => by
    unfold splitAt
    split
    · simp
    · split <;> simp

/-- Without a separator there is one piece. -/
theorem splitAt_eq_singleton {separator : Char} {text : List Char} (h : separator ∉ text) :
    splitAt separator text = [text] := by
  induction text with
  | nil => rfl
  | cons c rest ih =>
      obtain ⟨hne, hrest⟩ := List.ne_and_not_mem_of_not_mem_cons h
      simp only [splitAt, ih hrest, if_neg hne.symm]

/-- Joining the pieces with the separator gives the text back. -/
theorem intercalate_splitAt (separator : Char) :
    ∀ text : List Char, [separator].intercalate (splitAt separator text) = text
  | [] => by simp [splitAt]
  | c :: rest => by
    have ih := intercalate_splitAt separator rest
    have ne := splitAt_ne_nil separator rest
    unfold splitAt
    split
    · contradiction
    · rename_i piece more h
      rw [h] at ih
      split
      · rename_i hc
        simp [List.intercalate, hc] at ih ⊢
        exact ih
      · cases more with
        | nil => simp [List.intercalate] at ih ⊢; exact ih
        | cons p ps =>
          simp [List.intercalate] at ih ⊢
          exact ih

/-- What holds of the separator and of all pieces holds of what they are joined to. -/
theorem all_intercalate {p : Char → Bool} {separator : String} {words : List String}
    (hsep : separator.toList.all p = true) (h : ∀ w ∈ words, w.toList.all p = true) :
    (separator.intercalate words).toList.all p = true := by
  induction words with
  | nil => rw [String.intercalate_nil]; rfl
  | cons w words ih =>
      have hw := h w List.mem_cons_self
      have hrest := ih fun x hx => h x (List.mem_cons_of_mem w hx)
      cases words with
      | nil => rwa [String.intercalate_singleton]
      | cons v words =>
          rw [String.intercalate_cons_cons, String.toList_append, String.toList_append,
            List.all_append, List.all_append, hw, hsep, hrest]
          rfl

end PackageGate.Text
