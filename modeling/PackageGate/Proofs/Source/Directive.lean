import PackageGate.Proofs.Source.Defects
import PackageGate.Proofs.Text.Joined

/-!
# Adding the directive

A file that uses a symbol without its directive is mended by a line in front that holds the
directive. The line ends the one defect and changes no other (`defects_withDirective`), if it has no
part in the other checks: no bracket of it is counted, and the keyword is neither in the line nor
goes over its end. Nothing but that one defect is looked for in the line, so that a second one
changes nothing at all.
-/

namespace PackageGate.Source

/-- A text with a line in front that holds the directive. -/
def withDirective (rules : Rules) (text : List Char) : List Char :=
  rules.requiredDirective.toList ++ '\n' :: text

/-- Rules whose directive has no part in the checks that are not about it. -/
structure HasPlainDirective (rules : Rules) : Prop where
  /-- The keyword lies within a line. -/
  inline : '\n' ∉ rules.typeKeyword.toList
  /-- The keyword does not occur in the directive, and so is not empty either. -/
  apart : ¬rules.typeKeyword.toList <:+: rules.requiredDirective.toList
  /-- The directive holds no bracket. -/
  unbracketed : ∀ c ∈ ['{', '}', '(', ')'], c ∉ rules.requiredDirective.toList

section Line

variable {line : List Char}

/-! ## What a line in front does not change -/

theorem count_line {c : Char} (h : c ∉ line ∧ c ≠ '\n') (text : List Char) :
    (line ++ '\n' :: text).count c = text.count c := by
  rw [List.count_append, List.count_eq_zero_of_not_mem h.1, List.count_cons_of_ne h.2.symm,
    Nat.zero_add]

theorem checkBalance_line (opening closing : Char) (hopening : opening ∉ line ∧ opening ≠ '\n')
    (hclosing : closing ∉ line ∧ closing ≠ '\n') (name : String) (text : List Char) :
    checkBalance (String.singleton opening) (String.singleton closing) name (line ++ '\n' :: text) =
      checkBalance (String.singleton opening) (String.singleton closing) name text := by
  rw [checkBalance_singleton, checkBalance_singleton, count_line hopening, count_line hclosing]

theorem occurs_line {piece : List Char} (hinline : '\n' ∉ piece) (hapart : ¬piece <:+: line)
    (text : List Char) : Text.occurs piece (line ++ '\n' :: text) = Text.occurs piece text := by
  rw [Bool.eq_iff_iff, Text.occurs_iff_isInfix, Text.occurs_iff_isInfix,
    Text.isInfix_joined_iff hinline, or_iff_right hapart]

/-- A type block begins with its keyword, and so behind the line. -/
theorem hasTypeBlock_line {keyword : List Char} (hinline : '\n' ∉ keyword)
    (hapart : ¬keyword <:+: line) (text : List Char) :
    hasTypeBlock keyword (line ++ '\n' :: text) = hasTypeBlock keyword text := by
  rw [Bool.eq_iff_iff, hasTypeBlock_iff, hasTypeBlock_iff]
  constructor
  · rintro ⟨front, blanks, w, rest, h, hblock⟩
    rw [List.append_assoc] at h
    rcases Text.cut_joined hinline h.symm with ⟨between, hline, _⟩ | ⟨between, _, htext⟩
    · exact absurd ⟨front, between, hline.symm⟩ hapart
    · exact ⟨between, blanks, w, rest, by rw [htext, ← List.append_assoc], hblock⟩
  · rintro ⟨front, blanks, w, rest, rfl, hblock⟩
    exact ⟨line ++ '\n' :: front, blanks, w, rest,
      by simp only [List.append_assoc, List.cons_append], hblock⟩

theorem checkType_line {keyword : String} (hinline : '\n' ∉ keyword.toList)
    (hapart : ¬keyword.toList <:+: line) (text : List Char) :
    checkType keyword (line ++ '\n' :: text) = checkType keyword text := by
  have hspaced : '\n' ∉ keyword.toList ++ [' '] := by simpa using hinline
  have hspacedApart : ¬keyword.toList ++ [' '] <:+: line :=
    fun h => hapart ((List.prefix_append _ _).isInfix.trans h)
  rw [checkType, checkType, hasTypeBlock_line hinline hapart, occurs_line hspaced hspacedApart]

end Line

/-! ## The defect that ends -/

theorem checkDirective_withDirective (rules : Rules) (text : List Char) :
    checkDirective rules.sentinelSymbol rules.requiredDirective (withDirective rules text) =
      none := by
  have hoccurs : Text.occurs rules.requiredDirective.toList (withDirective rules text) = true := by
    rw [Text.occurs_iff_isInfix]
    exact (List.prefix_append _ _).isInfix
  rw [checkDirective, hoccurs, Bool.not_true, Bool.and_false, if_neg Bool.false_ne_true]

theorem checkBalance_ne_noDirective {opening closing name directive : String} {text : List Char} :
    ∀ d ∈ (checkBalance opening closing name text).toList, d ≠ .noDirective directive := by
  intro d hd
  rw [checkBalance] at hd
  split at hd
  · cases hd
  · rw [Option.toList_some, List.mem_singleton] at hd
    rintro rfl
    cases hd

theorem checkType_ne_noDirective {keyword directive : String} {text : List Char} :
    ∀ d ∈ (checkType keyword text).toList, d ≠ .noDirective directive := by
  intro d hd
  rw [checkType] at hd
  split at hd
  · cases hd
  · split at hd
    · rw [Option.toList_some, List.mem_singleton] at hd
      rintro rfl
      cases hd
    · cases hd

theorem checkDirective_eq_noDirective {sentinel directive : String} {text : List Char} :
    ∀ d ∈ (checkDirective sentinel directive text).toList, d = .noDirective directive := by
  intro d hd
  rw [checkDirective] at hd
  split at hd
  · rwa [Option.toList_some, List.mem_singleton] at hd
  · cases hd

/-- **A line with the directive takes away its defect and no other.** -/
theorem defects_withDirective {rules : Rules} (h : HasPlainDirective rules) (text : List Char) :
    defects rules (withDirective rules text) =
      (defects rules text).filter (· ≠ .noDirective rules.requiredDirective) := by
  have hbracket : ∀ c ∈ ['{', '}', '(', ')'],
      c ∉ rules.requiredDirective.toList ∧ c ≠ '\n' := by
    intro c hc
    refine ⟨h.unbracketed c hc, ?_⟩
    rintro rfl
    revert hc
    decide
  have hbraces : checkBalance "\x7b" "\x7d" "braces" (withDirective rules text) =
      checkBalance "\x7b" "\x7d" "braces" text :=
    checkBalance_line '{' '}' (hbracket '{' (by decide)) (hbracket '}' (by decide)) "braces" text
  have hparentheses : checkBalance "(" ")" "parentheses" (withDirective rules text) =
      checkBalance "(" ")" "parentheses" text :=
    checkBalance_line '(' ')' (hbracket '(' (by decide)) (hbracket ')' (by decide)) "parentheses"
      text
  have htype : checkType rules.typeKeyword (withDirective rules text) =
      checkType rules.typeKeyword text := checkType_line h.inline h.apart text
  -- all defects in front of the last check are kept, and the last check's one is not
  have hkept : ∀ {l : List Defect}, (∀ d ∈ l, d ≠ .noDirective rules.requiredDirective) →
      l.filter (· ≠ .noDirective rules.requiredDirective) = l := by
    intro l hl
    exact List.filter_eq_self.2 fun d hd => decide_eq_true (hl d hd)
  have hended : (checkDirective rules.sentinelSymbol rules.requiredDirective text).toList.filter
      (· ≠ .noDirective rules.requiredDirective) = [] := by
    rw [List.filter_eq_nil_iff]
    intro d hd hne
    exact of_decide_eq_true hne (checkDirective_eq_noDirective d hd)
  rw [defects, defects, hbraces, hparentheses, htype, checkDirective_withDirective,
    List.filter_append, List.filter_append, List.filter_append,
    hkept checkBalance_ne_noDirective, hkept checkBalance_ne_noDirective,
    hkept checkType_ne_noDirective, hended, Option.toList_none]

/-! ## The wording of the defect -/

/-- Each kind of defect begins with a letter of its own. -/
theorem head?_message (d : Defect) :
    d.message.toList.head? = some (match d with
      | .unbalanced .. => 'U'
      | .incomplete _ => 'I'
      | .noDirective _ => 'M') := by
  cases d with
  | unbalanced name opening closing opened closed =>
      have hword : "Unbalanced ".toList = 'U' :: "nbalanced ".toList := by decide
      show ("Unbalanced " ++ name ++ ": " ++ toString opened ++ " " ++ opening ++ " vs " ++
        toString closed ++ " " ++ closing).toList.head? = some 'U'
      simp only [String.toList_append, List.append_assoc, hword, List.cons_append, List.head?_cons]
  | incomplete keyword =>
      have hword : "Incomplete ".toList = 'I' :: "ncomplete ".toList := by decide
      show ("Incomplete " ++ keyword ++ " definition detected").toList.head? = some 'I'
      simp only [String.toList_append, List.append_assoc, hword, List.cons_append, List.head?_cons]
  | noDirective directive =>
      have hword : "Missing '".toList = 'M' :: "issing '".toList := by decide
      show ("Missing '" ++ directive ++ "' directive").toList.head? = some 'M'
      simp only [String.toList_append, List.append_assoc, hword, List.cons_append, List.head?_cons]

theorem message_noDirective_inj {d e : String}
    (h : (Defect.noDirective d).message = (Defect.noDirective e).message) : d = e := by
  have hcut : "Missing '" ++ (d ++ "' directive") = "Missing '" ++ (e ++ "' directive") := by
    rw [← String.append_assoc, ← String.append_assoc]
    exact h
  exact String.append_left_inj _ |>.1 (String.append_right_inj _ |>.1 hcut)

/-- No other defect is worded like a missing directive. -/
theorem message_eq_noDirective_iff {d : Defect} {directive : String} :
    d.message = (Defect.noDirective directive).message ↔ d = .noDirective directive := by
  constructor
  · intro h
    have hhead := congrArg (·.toList.head?) h
    rw [head?_message, head?_message] at hhead
    cases d with
    | unbalanced name opening closing opened closed => cases hhead
    | incomplete keyword => cases hhead
    | noDirective other => rw [message_noDirective_inj h]
  · rintro rfl
    rfl

/-! ## All defects with the line -/

/-- **With a line that holds the directive a text has all its defects but the missing directive**,
and a second such line changes nothing. -/
theorem defectMessages_withDirective {rules : Rules} (h : HasPlainDirective rules)
    (text : List Char) :
    defectMessages rules (withDirective rules text) =
        (defectMessages rules text).filter (· ≠ s!"Missing '{rules.requiredDirective}' directive")
      ∧ defects rules (withDirective rules text) =
        (defects rules text).filter (· ≠ .noDirective rules.requiredDirective)
      ∧ defectMessages rules (withDirective rules (withDirective rules text)) =
        defectMessages rules (withDirective rules text) := by
  refine ⟨?_, defects_withDirective h text, ?_⟩
  · rw [defectMessages, defectMessages, defects_withDirective h, List.filter_map]
    congr 1
    refine List.filter_congr fun d _ => ?_
    rw [Function.comp_apply, decide_eq_decide]
    exact (not_congr message_eq_noDirective_iff).symm
  · rw [defectMessages, defectMessages, defects_withDirective h, defects_withDirective h,
      List.filter_filter]
    simp only [Bool.and_self]

/-- A text in which a type is begun and a symbol used, without the directive. -/
def bareText : List Char := "class\nclass UnityEngine\x7b(".toList

theorem defects_bare :
    defects {} bareText = [.unbalanced "braces" "\x7b" "\x7d" 1 0,
      .unbalanced "parentheses" "(" ")" 1 0, .incomplete "class",
      .noDirective "using UnityEngine;"] := by decide

theorem hasPlainDirective_default : HasPlainDirective {} := by
  refine ⟨by decide, ?_, ?_⟩
  · rw [← Text.occurs_iff_isInfix]
    decide
  · have hfree : (Rules.requiredDirective {}).toList.all
        (fun c => !List.contains ['{', '}', '(', ')'] c) = true := by decide
    intro c hc hmem
    have hother := List.all_eq_true.1 hfree c hmem
    rw [List.contains_iff_mem.2 hc] at hother
    cases hother

theorem defectMessages_withDirective_bare :
    HasPlainDirective {}
      ∧ defectMessages {} (withDirective {} bareText) = ["Unbalanced braces: 1 \x7b vs 0 \x7d",
        "Unbalanced parentheses: 1 ( vs 0 )", "Incomplete class definition detected"]
      ∧ defectMessages {} (withDirective {} (withDirective {} bareText)) =
        defectMessages {} (withDirective {} bareText) := by
  obtain ⟨_, hmended, htwice⟩ := defectMessages_withDirective hasPlainDirective_default bareText
  refine ⟨hasPlainDirective_default, ?_, htwice⟩
  have hdefects : defects {} (withDirective {} bareText) = [.unbalanced "braces" "\x7b" "\x7d" 1 0,
      .unbalanced "parentheses" "(" ")" 1 0, .incomplete "class"] := by
    rw [hmended, defects_bare]
    decide
  rw [defectMessages, hdefects]
  rfl

end PackageGate.Source
