import PackageGate.Proofs.Source.Defects
import PackageGate.Proofs.Text.Joined

/-!
# Files one below the other

Two texts without defects have none when one is put below the other, from a new line on
(`defectMessages_joined`). Each of the four checks is closed under this for a reason of its own: the
numbers of brackets add up, a type block stays one wherever the text goes on, no keyword and no
symbol that lies within a line goes over the seam, and a directive is good for both parts.

That a text has no defects is said by its conditions first (`IsClean`), since the checks themselves
tell what is wrong and not what is right.
-/

namespace PackageGate.Source

/-! ## Clean texts -/

/-- What is right about a text without defects. -/
structure IsClean (rules : Rules) (text : List Char) : Prop where
  braces : text.count '{' = text.count '}'
  parentheses : text.count '(' = text.count ')'
  /-- If the keyword begins a type somewhere, then somewhere there is a whole one. -/
  whole : rules.typeKeyword.toList ++ [' '] <:+: text →
    hasTypeBlock rules.typeKeyword.toList text = true
  /-- The symbol does not occur without its directive. -/
  directed : rules.sentinelSymbol.toList <:+: text → rules.requiredDirective.toList <:+: text

theorem checkBalance_eq_none_iff (opening closing : Char) (name : String) (text : List Char) :
    checkBalance (String.singleton opening) (String.singleton closing) name text = none ↔
      text.count opening = text.count closing := by
  rw [checkBalance_singleton]
  split <;> simp_all

theorem checkType_eq_none_iff (keyword : String) (text : List Char) :
    checkType keyword text = none ↔
      (keyword.toList ++ [' '] <:+: text → hasTypeBlock keyword.toList text = true) := by
  rw [checkType, ← Text.occurs_iff_isInfix]
  split
  · simp_all
  · split <;> simp_all

theorem checkDirective_eq_none_iff (sentinel directive : String) (text : List Char) :
    checkDirective sentinel directive text = none ↔
      (sentinel.toList <:+: text → directive.toList <:+: text) := by
  rw [checkDirective, ← Text.occurs_iff_isInfix, ← Text.occurs_iff_isInfix]
  split <;> simp_all

/-- **A text has no defects exactly if it is clean.** -/
theorem defects_eq_nil_iff (rules : Rules) (text : List Char) :
    defects rules text = [] ↔ IsClean rules text := by
  have hbraces := checkBalance_eq_none_iff '{' '}' "braces" text
  have hparentheses := checkBalance_eq_none_iff '(' ')' "parentheses" text
  have hnil : ∀ found : Option Defect, found.toList = [] ↔ found = none := by
    intro found
    cases found <;> simp
  simp only [defects, List.append_eq_nil_iff, hnil]
  constructor
  · rintro ⟨⟨⟨hbrace, hparenthesis⟩, htype⟩, hdirective⟩
    exact ⟨hbraces.1 hbrace, hparentheses.1 hparenthesis, (checkType_eq_none_iff _ text).1 htype,
      (checkDirective_eq_none_iff _ _ text).1 hdirective⟩
  · rintro ⟨hbrace, hparenthesis, htype, hdirective⟩
    exact ⟨⟨⟨hbraces.2 hbrace, hparentheses.2 hparenthesis⟩,
      (checkType_eq_none_iff _ text).2 htype⟩, (checkDirective_eq_none_iff _ _ text).2 hdirective⟩

/-! ## What the seam keeps -/

theorem count_joined {c : Char} (hc : c ≠ '\n') (above below : List Char) :
    (above ++ '\n' :: below).count c = above.count c + below.count c := by
  rw [List.count_append, List.count_cons_of_ne hc.symm]

/-- Braces are left if the text goes on behind them. -/
theorem hasBraces_append_right {text : List Char} (h : hasBraces text = true) (more : List Char) :
    hasBraces (text ++ more) = true := by
  obtain ⟨a, b, c, rfl⟩ := (hasBraces_iff text).1 h
  rw [hasBraces_iff]
  exact ⟨a, b, c ++ more, by simp only [List.append_assoc, List.cons_append]⟩

/-- A type block is left if the text goes on behind it, -/
theorem hasTypeBlock_append_right {keyword text : List Char} (h : hasTypeBlock keyword text = true)
    (more : List Char) : hasTypeBlock keyword (text ++ more) = true := by
  obtain ⟨front, blanks, w, rest, rfl, hne, hblanks, hword, hbraces⟩ :=
    (hasTypeBlock_iff keyword text).1 h
  rw [hasTypeBlock_iff]
  exact ⟨front, blanks, w, rest ++ more, by simp only [List.append_assoc, List.cons_append], hne,
    hblanks, hword, hasBraces_append_right hbraces more⟩

/-- and if there is more in front of it. -/
theorem hasTypeBlock_append_left {keyword text : List Char} (h : hasTypeBlock keyword text = true)
    (more : List Char) : hasTypeBlock keyword (more ++ text) = true := by
  obtain ⟨front, blanks, w, rest, rfl, hblock⟩ := (hasTypeBlock_iff keyword text).1 h
  rw [hasTypeBlock_iff]
  exact ⟨more ++ front, blanks, w, rest, by simp only [List.append_assoc], hblock⟩

/-- **Clean texts are clean one below the other.** -/
theorem IsClean.joined {rules : Rules} {above below : List Char}
    (hkeyword : '\n' ∉ rules.typeKeyword.toList) (hsentinel : '\n' ∉ rules.sentinelSymbol.toList)
    (habove : IsClean rules above) (hbelow : IsClean rules below) :
    IsClean rules (above ++ '\n' :: below) := by
  have hseam : above ++ '\n' :: below = (above ++ ['\n']) ++ below := by
    rw [List.append_assoc, List.singleton_append]
  refine ⟨?_, ?_, ?_, ?_⟩
  · rw [count_joined (by decide), count_joined (by decide), habove.braces, hbelow.braces]
  · rw [count_joined (by decide), count_joined (by decide), habove.parentheses, hbelow.parentheses]
  · intro hoccurs
    have hspaced : '\n' ∉ rules.typeKeyword.toList ++ [' '] := by simpa using hkeyword
    rcases (Text.isInfix_joined_iff hspaced).1 hoccurs with hoccurs | hoccurs
    · exact hasTypeBlock_append_right (habove.whole hoccurs) _
    · rw [hseam]
      exact hasTypeBlock_append_left (hbelow.whole hoccurs) _
  · intro hoccurs
    rcases (Text.isInfix_joined_iff hsentinel).1 hoccurs with hoccurs | hoccurs
    · exact (habove.directed hoccurs).trans (List.prefix_append _ _).isInfix
    · rw [hseam]
      exact (hbelow.directed hoccurs).trans (List.suffix_append _ _).isInfix

/-- **Texts without defects have none when one is put below the other.** The directive may go over
lines, and nothing need be known of it. -/
theorem defectMessages_joined {rules : Rules} {above below : List Char}
    (hkeyword : '\n' ∉ rules.typeKeyword.toList) (hsentinel : '\n' ∉ rules.sentinelSymbol.toList)
    (habove : defectMessages rules above = []) (hbelow : defectMessages rules below = []) :
    defectMessages rules (above ++ '\n' :: below) = [] := by
  have hclean : ∀ text, defectMessages rules text = [] ↔ IsClean rules text := by
    intro text
    rw [defectMessages, List.map_eq_nil_iff, defects_eq_nil_iff]
  rw [hclean] at habove hbelow ⊢
  exact habove.joined hkeyword hsentinel hbelow

/-- The head of a file: a directive, and the keyword at the end of the last line. -/
def headText : List Char := "using UnityEngine;\n// see class".toList

/-- The rest of it: a whole type, in which the symbol is used. -/
def restText : List Char := "class A\n\x7b UnityEngine.Debug(using UnityEngine;) \x7d".toList

theorem defectMessages_joined_rest :
    '\n' ∉ ({} : Rules).typeKeyword.toList ∧ '\n' ∉ ({} : Rules).sentinelSymbol.toList
      ∧ defectMessages {} headText = [] ∧ defectMessages {} restText = []
      ∧ defectMessages {} (headText ++ '\n' :: restText) = [] := by
  have hkeyword : '\n' ∉ ({} : Rules).typeKeyword.toList := by decide
  have hsentinel : '\n' ∉ ({} : Rules).sentinelSymbol.toList := by decide
  have hhead : defectMessages {} headText = [] := by decide
  have hrest : defectMessages {} restText = [] := by decide
  exact ⟨hkeyword, hsentinel, hhead, hrest,
    defectMessages_joined hkeyword hsentinel hhead hrest⟩

end PackageGate.Source
