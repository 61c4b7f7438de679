import PackageGate.Proofs.Markup.Ends
import PackageGate.Proofs.Validation.OwnTags

/-!
# The last line of a report

The last sentence of a report is its banner, and it is printed last (`exists_lines_banner`). A
success may show the name of the checklist in more than one line, but the last of them always ends
in an exclamation mark (`exists_last_line_success`). A failure is printed in one line, which ends in
another character (`endsIn_failure`). So the two are never mistaken for each other.
-/

namespace PackageGate

open Markup
open Report (mark markPhrase)

/-- What a safe sentence ends with, the last of its lines ends in. -/
theorem Sentence.IsSafe.exists_last_line {s : Sentence} (h : s.IsSafe) {c : Char}
    (hc : isProse c = true) (hlast : (s.phrases.flatMap markPhrase).getLast? = some c)
    {colours : Bool} {lines : List String} (hlines : print colours (mark (some s)) = .ok lines) :
    ∃ above line, lines = above ++ [line] ∧ EndsIn colours c line := by
  obtain ⟨hsimple, hplain⟩ := isProse_iff.1 hc
  obtain ⟨ps, k, hcut, htext⟩ := h.exists_cut
  obtain ⟨front, hshown⟩ := exists_shown_last hcut hplain hlast s.style
  have hglyphs := glyphs_line s.style hcut htext
  rw [hshown, List.map_append, List.map_singleton] at hglyphs
  have hcode : (Glyph.code? ⟨c, [s.style.opened]⟩).isSome = true := by
    rw [code?_opened]
    rfl
  exact Markup.exists_last_line hglyphs hsimple hcode hlines

namespace Report

/-- **The banner is printed last.** -/
theorem exists_lines_banner {colours : Bool} {r : Result} {ls : List String}
    (h : lines colours r = .ok ls) :
    ∃ above shown, ls = above ++ shown ∧ print colours (mark (some (banner r))) = .ok shown := by
  have hlast : ∃ front, sentences r = front ++ [some (banner r)] :=
    ⟨_, (List.append_assoc _ [none] [some (banner r)]).symm⟩
  obtain ⟨front, hfront⟩ := hlast
  rw [lines, hfront, List.map_append, List.map_singleton] at h
  obtain ⟨above, shown, _, hshown, rfl⟩ := printAll_append_eq_ok_iff.1 h
  exact ⟨above, shown, rfl, printAll_singleton.1 hshown⟩

/-! ## Success -/

/-- What is said of a checklist when all is good. -/
def success (name : String) : Sentence :=
  ⟨.success, [.fixed "🎉 All validation checks passed! ✨ ", .given name,
    .fixed " implementation looks good!"]⟩

theorem banner_of_allGood {r : Result} (h : r.allGood = true) :
    banner r = success r.checklist.name := by
  rw [banner, if_pos h]
  rfl

/-- A success ends in an exclamation mark, whatever the name is. -/
theorem exists_last_line_success {colours : Bool} {name : String} {ls : List String}
    (h : print colours (mark (some (success name))) = .ok ls) :
    ∃ above line, ls = above ++ [line] ∧ EndsIn colours '!' line := by
  have hsafe : (success name).IsSafe :=
    .inside (arePlain_of_prose (by decide)) (arePlain_of_prose (by decide))
  refine hsafe.exists_last_line (by decide) ?_ h
  show ("🎉 All validation checks passed! ✨ ".toList ++ (escape name.toList ++
    (" implementation looks good!".toList ++ []))).getLast? = some '!'
  rw [List.append_nil, List.getLast?_append, List.getLast?_append]
  rfl

/-! ## Failure -/

/-- What is said when something failed. -/
def failure (r : Result) : String := "💥 Some validation checks failed: " ++ summary r

theorem failure_eq (r : Result) :
    failure r = "💥 Some validation checks failed: " ++ summary r := rfl

theorem banner_of_not_allGood {r : Result} (h : r.allGood = false) :
    banner r = ⟨.failure, [.fixed (failure r)]⟩ := by
  rw [banner, h]
  rfl

theorem all_failure {p : Char → Bool}
    (hopen : "💥 Some validation checks failed: ".toList.all p = true)
    (hdigit : ∀ c : Char, c.isDigit = true → p c = true)
    (hwords : ∀ w ∈ summaryWords, w.toList.all p = true) (r : Result) :
    (failure r).toList.all p = true := by
  rw [failure_eq, String.toList_append, List.all_append, hopen, all_summary hdigit hwords]
  rfl

theorem failure_ne_nil (r : Result) : (failure r).toList ≠ [] := by
  simp [failure_eq]

/-- A failure is printed in one line. -/
theorem print_failure (colours : Bool) {r : Result} (h : r.allGood = false) :
    print colours (mark (some (banner r))) = .ok [painted colours .failure (failure r)] := by
  have hwords : (failure r).toList.all isProse = true :=
    all_failure (by decide) (fun _ => isProse_of_isDigit) (by decide) r
  rw [banner_of_not_allGood h, mark]
  simpa [markPhrase] using print_painted colours .failure hwords (failure_ne_nil r)

/-- A failure ends in another character than a success. -/
theorem endsIn_failure (colours : Bool) (r : Result) :
    ∃ c, c ≠ '!' ∧ EndsIn colours c (painted colours .failure (failure r)) := by
  have hnone : (failure r).toList.all (· ≠ '!') = true := by
    refine all_failure (by decide) (fun c hc => ?_) (by decide) r
    rw [decide_eq_true_eq]
    rintro rfl
    exact absurd hc (by decide)
  have hlast := List.getLast?_eq_some_getLast (failure_ne_nil r)
  refine ⟨_, ?_, endsIn_painted colours .failure hlast⟩
  exact of_decide_eq_true (List.all_eq_true.1 hnone _ (List.getLast_mem (failure_ne_nil r)))

end Report

end PackageGate
