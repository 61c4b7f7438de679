import PackageGate.Proofs.Text.Count
import PackageGate.Source.Structure

/-!
# Whether two delimiters balance

Delimiters are pieces of text of any length. They may overlap one another or themselves, and either
of them may be empty. The check has something to say exactly if one of them can occur more often
without overlap than the other, and then it says how often each of them can
(`checkBalance_counted`).
-/

namespace PackageGate.Source

open Text (IsCount isCount_count)

/-- **Two delimiters balance exactly if they occur equally often.** If they do not, the message
gives both numbers, each of which is the greatest number of occurrences without overlap. -/
theorem checkBalance_counted (opening closing name : String) (text : List Char) :
    ∃ opened closed, IsCount opening.toList text opened ∧ IsCount closing.toList text closed
      ∧ (checkBalance opening closing name text).map (·.message) =
        if opened = closed then none
        else some s!"Unbalanced {name}: {opened} {opening} vs {closed} {closing}" := by
  refine ⟨_, _, isCount_count opening.toList text, isCount_count closing.toList text, ?_⟩
  rw [checkBalance]
  split
  · rfl
  · rfl

/-- Of three overlapping occurrences of `aa` two are without overlap, and the empty piece occurs
five times. -/
example : (checkBalance "aa" "" "pairs" "aaaa".toList).map (·.message) =
    some "Unbalanced pairs: 2 aa vs 5 " := by decide

end PackageGate.Source
