import PackageGate.Proofs.Text.LineEnds
import PackageGate.Proofs.Text.Pattern
import PackageGate.Source.Structure

/-!
# Which defects a text has

Each of the four checks has its say on a text whatever the others find, and the defects are what
they say, in order (`defectMessages_reported`). Three of the conditions count characters or ask
whether a piece of text occurs. The fourth is about type blocks. A block is told by four positions
(`BlockAt`): where the keyword begins, where the name begins behind the blanks, and where the braces
are.

A block can also be looked for as a pattern is (`blockPattern`), with runs that take as much as they
can and give it back again. How much a run takes does not matter in the end: what stands behind the
first character of the name is anything, up to the last closing brace behind an opening one, and
the blanks end where the name begins. So the pattern is found exactly where there is a block
(`isSome_search_iff_hasTypeBlock`).
-/

namespace PackageGate.Source

open Text (isBlank isWord)
open Text.Pattern (Part Cuts literal search cuts_one_iff cuts_many_iff)

/-! ## Type blocks by position -/

/-- A type block, by the positions of its keyword, of its name and of its braces. -/
structure BlockAt (keyword text : List Char) (start name opening closing : Nat) : Prop where
  begins : keyword <+: text.drop start
  gap : start + keyword.length < name
  blanks : ∀ i, start + keyword.length ≤ i → i < name →
    ∃ c, text[i]? = some c ∧ isBlank c = true
  named : ∃ c, text[name]? = some c ∧ isWord c = true
  name_lt : name < opening
  opens : text[opening]? = some '{'
  opening_lt : opening < closing
  closes : text[closing]? = some '}'

/-- A text is cut at the position of a character. -/
theorem exists_cut {text : List Char} {n i : Nat} {c : Char} (h : text[i]? = some c) (hn : n ≤ i) :
    ∃ front, text.drop n = front ++ c :: text.drop (i + 1) ∧ front.length = i - n := by
  obtain ⟨hi, rfl⟩ := List.getElem?_eq_some_iff.1 h
  refine ⟨(text.drop n).take (i - n), ?_, ?_⟩
  · have hdrop : (text.drop n).drop (i - n) = text.drop i := by
      rw [List.drop_drop, Nat.add_sub_cancel' hn]
    rw [← List.drop_eq_getElem_cons hi, ← hdrop, List.take_append_drop]
  · rw [List.length_take, List.length_drop]
    omega

theorem hasBraces_of_getElem? {text : List Char} {n opening closing : Nat}
    (hn : n ≤ opening) (hopening : text[opening]? = some '{') (hbehind : opening < closing)
    (hclosing : text[closing]? = some '}') : hasBraces (text.drop n) = true := by
  obtain ⟨front, hfront, _⟩ := exists_cut hopening hn
  obtain ⟨between, hbetween, _⟩ := exists_cut hclosing (Nat.succ_le_of_lt hbehind)
  rw [hasBraces_iff]
  refine ⟨front, between, text.drop (closing + 1), ?_⟩
  rw [hfront, hbetween, List.append_assoc, List.cons_append]

theorem BlockAt.hasTypeBlock {keyword text : List Char} {start name opening closing : Nat}
    (h : BlockAt keyword text start name opening closing) : hasTypeBlock keyword text = true := by
  obtain ⟨tail, htail⟩ := h.begins
  obtain ⟨w, hw, hword⟩ := h.named
  have hbehind : tail = text.drop (start + keyword.length) := by
    rw [← List.drop_drop, ← htail, List.drop_left]
  obtain ⟨blanks, hcut, hlength⟩ := exists_cut hw (Nat.le_of_lt h.gap)
  rw [hasTypeBlock_iff]
  refine ⟨text.take start, blanks, w, text.drop (name + 1), ?_, ?_, ?_, hword, ?_⟩
  · rw [List.append_assoc, ← hcut, ← hbehind, List.append_assoc, htail, List.take_append_drop]
  · rintro rfl
    have hgap := h.gap
    rw [List.length_nil] at hlength
    omega
  · -- a character of the gap has a position in the text
    intro c hc
    obtain ⟨i, hi, rfl⟩ := List.mem_iff_getElem.1 hc
    obtain ⟨d, hd, hblank⟩ := h.blanks (start + keyword.length + i) (Nat.le_add_right _ _)
      (by omega)
    rw [← List.getElem?_drop, hcut, List.getElem?_append_left hi, List.getElem?_eq_getElem hi] at hd
    rw [Option.some.inj hd]
    exact hblank
  · exact hasBraces_of_getElem? h.name_lt h.opens h.opening_lt h.closes

/-- The character behind a piece in front. -/
theorem getElem?_length_add (front rest : List Char) (i : Nat) :
    (front ++ rest)[front.length + i]? = rest[i]? := by
  rw [List.getElem?_append_right (Nat.le_add_right _ _), Nat.add_sub_cancel_left]

theorem exists_blockAt {keyword text : List Char} (h : hasTypeBlock keyword text = true) :
    ∃ start name opening closing, BlockAt keyword text start name opening closing := by
  obtain ⟨front, blanks, w, rest, rfl, hne, hblanks, hword, hbraces⟩ :=
    (hasTypeBlock_iff keyword text).1 h
  obtain ⟨a, b, c, rfl⟩ := (hasBraces_iff rest).1 hbraces
  have hpos : 0 < blanks.length := List.length_pos_iff.2 hne
  refine ⟨front.length, (front ++ keyword ++ blanks).length,
    (front ++ keyword ++ blanks ++ w :: a).length,
    (front ++ keyword ++ blanks ++ w :: a ++ '{' :: b).length, ?_, ?_, ?_, ?_, ?_, ?_, ?_, ?_⟩
  · rw [List.append_assoc, List.append_assoc, List.drop_left]
    exact List.prefix_append _ _
  · simp only [List.length_append]
    omega
  · intro i hfrom hto
    obtain ⟨k, rfl⟩ := Nat.exists_eq_add_of_le hfrom
    simp only [List.length_append] at hto
    have hk : k < blanks.length := by omega
    refine ⟨blanks[k], ?_, hblanks _ (List.getElem_mem hk)⟩
    rw [← List.length_append, List.append_assoc, getElem?_length_add,
      List.getElem?_append_left hk, List.getElem?_eq_getElem hk]
  · exact ⟨w, getElem?_length_add _ _ 0, hword⟩
  · simp only [List.length_append, List.length_cons]
    omega
  · have hcut : front ++ keyword ++ blanks ++ w :: (a ++ '{' :: b ++ '}' :: c) =
        front ++ keyword ++ blanks ++ w :: a ++ '{' :: (b ++ '}' :: c) := by
      simp only [List.append_assoc, List.cons_append]
    rw [hcut]
    exact getElem?_length_add _ _ 0
  · simp only [List.length_append, List.length_cons]
    omega
  · have hcut : front ++ keyword ++ blanks ++ w :: (a ++ '{' :: b ++ '}' :: c) =
        front ++ keyword ++ blanks ++ w :: a ++ '{' :: b ++ '}' :: c := by
      simp only [List.append_assoc, List.cons_append]
    rw [hcut]
    exact getElem?_length_add _ _ 0

/-- **A type block is found exactly if there is one at some positions.** -/
theorem hasTypeBlock_iff_blockAt (keyword text : List Char) :
    hasTypeBlock keyword text = true ↔
      ∃ start name opening closing, BlockAt keyword text start name opening closing := by
  constructor
  · exact exists_blockAt
  · rintro ⟨start, name, opening, closing, h⟩
    exact h.hasTypeBlock

/-! ## Type blocks as a pattern -/

/-- The braces of a type block, with anything in front of them and between them. -/
def bracesPattern : List Part :=
  [.many fun _ => true, .one (· == '{'), .many fun _ => true, .one (· == '}')]

/-- What follows the keyword of a type block: blanks, a name, and braces. -/
def definitionPattern : List Part :=
  .one isBlank :: .many isBlank :: .one isWord :: .many isWord :: bracesPattern

/-- A whole type block. -/
def blockPattern (keyword : List Char) : List Part := literal keyword ++ definitionPattern

theorem exists_cuts_braces_iff (text : List Char) :
    (∃ left, Cuts bracesPattern text left) ↔ hasBraces text = true := by
  rw [hasBraces_iff, bracesPattern]
  constructor
  · rintro ⟨left, h⟩
    obtain ⟨a, _, rfl, _, h⟩ := cuts_many_iff.1 h
    obtain ⟨opening, _, rfl, hopening, h⟩ := cuts_one_iff.1 h
    obtain ⟨b, _, rfl, _, h⟩ := cuts_many_iff.1 h
    obtain ⟨closing, c, rfl, hclosing, _⟩ := cuts_one_iff.1 h
    obtain rfl : opening = '{' := by simpa using hopening
    obtain rfl : closing = '}' := by simpa using hclosing
    exact ⟨a, b, c, by rw [List.append_assoc, List.cons_append]⟩
  · rintro ⟨a, b, c, rfl⟩
    rw [List.append_assoc, List.cons_append]
    exact ⟨c, .many (fun _ _ => rfl) (.one rfl (.many (fun _ _ => rfl) (.one rfl .nil)))⟩

/-- Braces behind a front are braces. -/
theorem hasBraces_append {rest : List Char} (front : List Char) (h : hasBraces rest = true) :
    hasBraces (front ++ rest) = true := by
  obtain ⟨a, b, c, rfl⟩ := (hasBraces_iff rest).1 h
  rw [hasBraces_iff]
  exact ⟨front ++ a, b, c, by simp only [List.append_assoc]⟩

theorem exists_cuts_definition_iff (text : List Char) :
    (∃ left, Cuts definitionPattern text left) ↔ isDefinition text = true := by
  rw [isDefinition_iff, definitionPattern]
  constructor
  · rintro ⟨left, h⟩
    obtain ⟨blank, _, rfl, hblank, h⟩ := cuts_one_iff.1 h
    obtain ⟨blanks, _, rfl, hblanks, h⟩ := cuts_many_iff.1 h
    obtain ⟨w, _, rfl, hword, h⟩ := cuts_one_iff.1 h
    obtain ⟨more, rest, rfl, _, h⟩ := cuts_many_iff.1 h
    -- what the name takes behind its first character is in front of the braces
    have hbraces := hasBraces_append more ((exists_cuts_braces_iff rest).1 ⟨left, h⟩)
    exact ⟨blank :: blanks, w, more ++ rest, rfl, List.cons_ne_nil _ _,
      List.forall_mem_cons.2 ⟨hblank, hblanks⟩, hword, hbraces⟩
  · rintro ⟨blanks, w, rest, rfl, hne, hblanks, hword, hbraces⟩
    cases blanks with
    | nil => exact absurd rfl hne
    | cons blank blanks =>
        rw [List.forall_mem_cons] at hblanks
        obtain ⟨left, h⟩ := (exists_cuts_braces_iff rest).2 hbraces
        have hname : Cuts (.many isWord :: bracesPattern) rest left :=
          .many (fun c hc => absurd hc List.not_mem_nil) h
        exact ⟨left, .one hblanks.1 (.many hblanks.2 (.one hword hname))⟩

/-- **The pattern of a type block is found exactly if a type block is.** -/
theorem isSome_search_iff_hasTypeBlock (keyword text : List Char) :
    (search (blockPattern keyword) text).isSome = true ↔ hasTypeBlock keyword text = true := by
  rw [Text.Pattern.isSome_search_iff, hasTypeBlock_iff]
  simp only [blockPattern, Text.Pattern.cuts_literal_append_iff]
  constructor
  · rintro ⟨front, _, left, rfl, behind, rfl, h⟩
    obtain ⟨blanks, w, rest, rfl, hblock⟩ :=
      (isDefinition_iff behind).1 ((exists_cuts_definition_iff behind).1 ⟨left, h⟩)
    exact ⟨front, blanks, w, rest, by simp only [List.append_assoc], hblock⟩
  · rintro ⟨front, blanks, w, rest, rfl, hblock⟩
    obtain ⟨left, h⟩ := (exists_cuts_definition_iff (blanks ++ w :: rest)).2
      ((isDefinition_iff _).2 ⟨blanks, w, rest, rfl, hblock⟩)
    exact ⟨front, keyword ++ (blanks ++ w :: rest), left, by simp only [List.append_assoc],
      blanks ++ w :: rest, rfl, h⟩

/-! ## All checks -/

/-- A message is all there is if a condition holds, and else there is none. -/
def Reports (condition : Prop) (message : String) (found : List String) : Prop :=
  (condition → found = [message]) ∧ (¬condition → found = [])

/-- What is said on two brackets, by how often each of them occurs. -/
def ReportsBalance (name : String) (opening closing : Char) (text : List Char)
    (found : List String) : Prop :=
  ∃ opened closed, opened = text.count opening ∧ closed = text.count closing
    ∧ Reports (opened ≠ closed)
      s!"Unbalanced {name}: {opened} {opening} vs {closed} {closing}" found

/-- Two brackets of one character each are checked by how often they occur. -/
theorem checkBalance_singleton (opening closing : Char) (name : String) (text : List Char) :
    checkBalance (String.singleton opening) (String.singleton closing) name text =
      if text.count opening = text.count closing then none
      else some (.unbalanced name (String.singleton opening) (String.singleton closing)
        (text.count opening) (text.count closing)) := by
  rw [checkBalance, String.toList_singleton, String.toList_singleton, Text.count_singleton,
    Text.count_singleton]

theorem reportsBalance_checkBalance (name : String) (opening closing : Char) (text : List Char) :
    ReportsBalance name opening closing text
      ((checkBalance (String.singleton opening) (String.singleton closing) name text).toList.map
        (·.message)) := by
  refine ⟨_, _, rfl, rfl, ?_, ?_⟩
  · intro hne
    rw [checkBalance_singleton, if_neg hne]
    rfl
  · intro heq
    rw [checkBalance_singleton, if_pos (Decidable.not_not.1 heq)]
    rfl

theorem reports_checkType (keyword : String) (text : List Char) :
    Reports (keyword.toList ++ [' '] <:+: text ∧ ¬hasTypeBlock keyword.toList text = true)
      s!"Incomplete {keyword} definition detected"
      ((checkType keyword text).toList.map (·.message)) := by
  rw [← Text.occurs_iff_isInfix, checkType]
  constructor
  · rintro ⟨hoccurs, hblock⟩
    rw [if_neg hblock, if_pos hoccurs]
    rfl
  · intro hnot
    by_cases hblock : hasTypeBlock keyword.toList text = true
    · rw [if_pos hblock]
      rfl
    · rw [if_neg hblock, if_neg fun hoccurs => hnot ⟨hoccurs, hblock⟩]
      rfl

theorem reports_checkDirective (sentinel directive : String) (text : List Char) :
    Reports (sentinel.toList <:+: text ∧ ¬directive.toList <:+: text)
      s!"Missing '{directive}' directive"
      ((checkDirective sentinel directive text).toList.map (·.message)) := by
  rw [← Text.occurs_iff_isInfix, ← Text.occurs_iff_isInfix, checkDirective]
  have hcondition :
      (Text.occurs sentinel.toList text && !Text.occurs directive.toList text) = true ↔
        Text.occurs sentinel.toList text = true ∧ ¬Text.occurs directive.toList text = true := by
    rw [Bool.and_eq_true, Bool.not_eq_true', Bool.not_eq_true]
  constructor
  · intro hmissing
    rw [if_pos (hcondition.2 hmissing)]
    rfl
  · intro hnot
    rw [if_neg fun hmissing => hnot (hcondition.1 hmissing)]
    rfl

/-- **The defects of a text are what the four checks report, each on its own condition.** The
condition on type blocks speaks of positions, and a search for the pattern finds the same blocks. -/
theorem defectMessages_reported (rules : Rules) (text : List Char) :
    (∃ braces parentheses type directive : List String,
      defectMessages rules text = braces ++ parentheses ++ type ++ directive
        ∧ ReportsBalance "braces" '{' '}' text braces
        ∧ ReportsBalance "parentheses" '(' ')' text parentheses
        ∧ Reports (rules.typeKeyword.toList ++ [' '] <:+: text
            ∧ ¬∃ start name opening closing,
              BlockAt rules.typeKeyword.toList text start name opening closing)
          s!"Incomplete {rules.typeKeyword} definition detected" type
        ∧ Reports (rules.sentinelSymbol.toList <:+: text
            ∧ ¬rules.requiredDirective.toList <:+: text)
          s!"Missing '{rules.requiredDirective}' directive" directive)
    ∧ ((search (blockPattern rules.typeKeyword.toList) text).isSome = true ↔
        ∃ start name opening closing,
          BlockAt rules.typeKeyword.toList text start name opening closing) := by
  rw [← hasTypeBlock_iff_blockAt]
  refine ⟨⟨_, _, _, _, ?_, reportsBalance_checkBalance "braces" '{' '}' text,
    reportsBalance_checkBalance "parentheses" '(' ')' text, reports_checkType _ text,
    reports_checkDirective _ _ text⟩, isSome_search_iff_hasTypeBlock _ text⟩
  rw [defectMessages, defects, List.map_append, List.map_append, List.map_append]
  rfl

end PackageGate.Source
