import PackageGate.Checklist.Basic
import PackageGate.Text.Blank
import PackageGate.Text.Occurrence
import PackageGate.Text.Word

/-!
# The structure of a source file

A source file is checked by rules of thumb on its text. Brackets in comments and texts count like
all others. There are four checks, each of which stands by itself:

* as many braces are opened as closed, and as many parentheses;
* if the keyword for types occurs with a space behind it, then somewhere a whole *type block*
  occurs: the keyword, blanks, the first character of a name, and later on an opening and then a
  closing brace;
* if the sentinel symbol occurs, so does the directive that it needs.

`hasTypeBlock` looks for a block from the left. `hasTypeBlock_iff` says that it finds one exactly if
the text can be cut in such a way that the pieces are those of a block.
-/

namespace PackageGate.Source

open Text (isBlank isWord occurs count)

/-- What is wrong with the structure of a file. -/
inductive Defect where
  /-- Two kinds of brackets do not occur equally often. -/
  | unbalanced (name opening closing : String) (opened closed : Nat)
  /-- The keyword for types occurs, but no whole type block. -/
  | incomplete (keyword : String)
  /-- The directive for a symbol is missing. -/
  | noDirective (directive : String)
deriving Repr, DecidableEq

/-- The wording of a defect. -/
def Defect.message : Defect → String
  | .unbalanced name opening closing opened closed =>
    s!"Unbalanced {name}: {opened} {opening} vs {closed} {closing}"
  | .incomplete keyword => s!"Incomplete {keyword} definition detected"
  | .noDirective directive => s!"Missing '{directive}' directive"

/-! ## Balance -/

/-- The defect of two delimiters that do not occur equally often. -/
def checkBalance (opening closing name : String) (text : List Char) : Option Defect :=
  let opened := count opening.toList text
  let closed := count closing.toList text
  if opened = closed then none else some (.unbalanced name opening closing opened closed)

/-! ## Type blocks -/

/-- Whether an opening brace occurs and a closing one behind it. -/
def hasBraces (text : List Char) : Bool := ((text.dropWhile (· ≠ '{')).drop 1).contains '}'

/-- Whether a text that follows the keyword goes on as a type block does: with blanks, the first
character of a name, and braces. -/
def isDefinition (text : List Char) : Bool :=
  match text with
  | [] => false
  | c :: rest =>
    isBlank c && match rest.dropWhile isBlank with
      | [] => false
      | d :: more => isWord d && hasBraces more

/-- Whether a type block begins with an occurrence of the keyword, anywhere in the text. -/
def hasTypeBlock (keyword : List Char) : List Char → Bool
  | [] => keyword.isEmpty && isDefinition []
  | c :: rest =>
    (keyword.isPrefixOf (c :: rest) && isDefinition ((c :: rest).drop keyword.length)) ||
      hasTypeBlock keyword rest

/-- The defect of a keyword without a whole type block. -/
def checkType (keyword : String) (text : List Char) : Option Defect :=
  if hasTypeBlock keyword.toList text then none
  else if occurs (keyword.toList ++ [' ']) text then some (.incomplete keyword)
  else none

/-! ## Directives -/

/-- The defect of a symbol without the directive that it needs. -/
def checkDirective (sentinel directive : String) (text : List Char) : Option Defect :=
  if occurs sentinel.toList text && !occurs directive.toList text then
    some (.noDirective directive)
  else none

/-! ## All checks -/

/-- The defects of a file. -/
def defects (rules : Rules) (text : List Char) : List Defect :=
  (checkBalance "\x7b" "\x7d" "braces" text).toList ++
    (checkBalance "(" ")" "parentheses" text).toList ++
    (checkType rules.typeKeyword text).toList ++
    (checkDirective rules.sentinelSymbol rules.requiredDirective text).toList

/-- The wordings of a file's defects. -/
def defectMessages (rules : Rules) (text : List Char) : List String :=
  (defects rules text).map (·.message)

/-! ## What a type block is -/

/-- Braces occur exactly if the text can be cut around an opening and a closing one. -/
theorem hasBraces_iff (text : List Char) :
    hasBraces text = true ↔ ∃ a b c, text = a ++ '{' :: b ++ '}' :: c := by
  induction text with
  | nil => simp [hasBraces]
  | cons d rest ih =>
    by_cases hd : d = '{'
    · subst hd
      constructor
      · intro h
        have h' : '}' ∈ rest := by simpa [hasBraces] using h
        obtain ⟨b, c, hbc⟩ := List.append_of_mem h'
        exact ⟨[], b, c, by simp [hbc]⟩
      · rintro ⟨a, b, c, h⟩
        cases a with
        | nil =>
          have h' : rest = b ++ '}' :: c := by simpa using h
          simp [hasBraces, h']
        | cons x a =>
          have h' : rest = a ++ '{' :: (b ++ '}' :: c) := by
            have := (List.cons.inj h).2
            simpa using this
          simp [hasBraces, h']
    · have step : hasBraces (d :: rest) = hasBraces rest := by simp [hasBraces, hd]
      rw [step, ih]
      constructor
      · rintro ⟨a, b, c, h⟩
        exact ⟨d :: a, b, c, by simp [h]⟩
      · rintro ⟨a, b, c, h⟩
        cases a with
        | nil => exact absurd (by simpa using congrArg List.head? h) hd
        | cons x a => exact ⟨a, b, c, by simpa using (List.cons.inj h).2⟩

/-- No character is both a blank and part of a word. -/
theorem not_isWord_of_isBlank {c : Char} (h : isBlank c = true) : isWord c = false := by
  have cases : ∀ n ∈ [9, 10, 11, 12, 13, 28, 29, 30, 31, 32, 0x85, 0xA0, 0x1680, 0x2000, 0x2001,
      0x2002, 0x2003, 0x2004, 0x2005, 0x2006, 0x2007, 0x2008, 0x2009, 0x200A, 0x2028, 0x2029,
      0x202F, 0x205F, 0x3000], isWord (Char.ofNat n) = false := by decide +kernel
  have mem : c.toNat ∈ [9, 10, 11, 12, 13, 28, 29, 30, 31, 32, 0x85, 0xA0, 0x1680, 0x2000, 0x2001,
      0x2002, 0x2003, 0x2004, 0x2005, 0x2006, 0x2007, 0x2008, 0x2009, 0x200A, 0x2028, 0x2029,
      0x202F, 0x205F, 0x3000] := by
    simp only [isBlank, Bool.or_eq_true, Bool.and_eq_true, decide_eq_true_eq, beq_iff_eq] at h
    simp only [List.mem_cons, List.not_mem_nil, or_false]
    omega
  simpa [Char.ofNat_toNat] using cases _ mem

/-- What follows the keyword goes on as a type block exactly if it can be cut into blanks, at least
one of them, the first character of a name, and a rest with braces. -/
theorem isDefinition_iff (text : List Char) :
    isDefinition text = true ↔ ∃ blanks w rest, text = blanks ++ w :: rest ∧ blanks ≠ [] ∧
      (∀ c ∈ blanks, isBlank c = true) ∧ isWord w = true ∧ hasBraces rest = true := by
  constructor
  · intro h
    cases text with
    | nil => simp [isDefinition] at h
    | cons c rest =>
      simp only [isDefinition, Bool.and_eq_true] at h
      obtain ⟨hc, h⟩ := h
      have cut := List.takeWhile_append_dropWhile (p := isBlank) (l := rest)
      cases hd : rest.dropWhile isBlank with
      | nil => simp [hd] at h
      | cons w more =>
        simp only [hd, Bool.and_eq_true] at h
        refine ⟨c :: rest.takeWhile isBlank, w, more, ?_, by simp, ?_, h.1, h.2⟩
        · rw [hd] at cut
          simp [cut]
        · intro x hx
          rcases List.mem_cons.1 hx with rfl | hx
          · exact hc
          · exact (List.all_eq_true.1 List.all_takeWhile) x hx
  · rintro ⟨blanks, w, rest, rfl, ne, all, word, braces⟩
    cases blanks with
    | nil => exact absurd rfl ne
    | cons c blanks =>
      have notBlank : isBlank w = false := by
        cases hb : isBlank w with
        | false => rfl
        | true => rw [not_isWord_of_isBlank hb] at word; cases word
      have drop : (blanks ++ w :: rest).dropWhile isBlank = w :: rest := by
        rw [List.dropWhile_append_of_pos fun x hx => all x (List.mem_cons_of_mem c hx)]
        simp [notBlank]
      simp [isDefinition, all c, drop, word, braces]

/-- A type block is found exactly if the text can be cut into anything, the keyword, blanks, the
first character of a name, and a rest with braces. -/
theorem hasTypeBlock_iff (keyword text : List Char) :
    hasTypeBlock keyword text = true ↔ ∃ front blanks w rest,
      text = front ++ keyword ++ blanks ++ w :: rest ∧ blanks ≠ [] ∧
      (∀ c ∈ blanks, isBlank c = true) ∧ isWord w = true ∧ hasBraces rest = true := by
  induction text with
  | nil => simp [hasTypeBlock, isDefinition]
  | cons c text ih =>
    simp only [hasTypeBlock, Bool.or_eq_true, Bool.and_eq_true, List.isPrefixOf_iff_prefix, ih,
      isDefinition_iff]
    constructor
    · rintro (⟨⟨tail, ht⟩, blanks, w, rest, hd, more⟩ | ⟨front, blanks, w, rest, rfl, more⟩)
      · rw [← ht, List.drop_left] at hd
        exact ⟨[], blanks, w, rest, by simp [← ht, hd], more⟩
      · exact ⟨c :: front, blanks, w, rest, by simp, more⟩
    · rintro ⟨front, blanks, w, rest, h, more⟩
      cases front with
      | nil =>
        left
        have h' : c :: text = keyword ++ (blanks ++ w :: rest) := by simpa using h
        exact ⟨⟨_, h'.symm⟩, blanks, w, rest, by rw [h', List.drop_left], more⟩
      | cons d front =>
        exact Or.inr ⟨front, blanks, w, rest, by simpa using (List.cons.inj h).2, more⟩

end PackageGate.Source
