import PackageGate.Disk.Assembled
import PackageGate.Proofs.Text.LineEnds
import PackageGate.Proofs.Text.Utf8
import PackageGate.Proofs.Validation.Run

/-!
# The structure of a text does not depend on where it is

A text can be checked as it is, or written to a file and checked from there. On the way through the
file it is encoded and decoded again, which gives the same characters, and its line ends are
replaced, which does not. Both ways the defects are the same (`defects_stored`), if no text in the
rules holds the end of a line.

A line end is a blank, and neither a brace nor part of a name. Whatever a type block is made of
behind its keyword, it is there with any line ends (`isDefinition_unifyNewlines`); and where no
keyword begins at a line end, none is found there (`hasTypeBlock_unifyNewlines`). If the keyword is
empty it begins everywhere, also between a carriage return and its line feed, but then what follows
the line feed follows the carriage return as well.
-/

namespace PackageGate.Source

open Disk (Path Fault Node Place assemble faultAt readAt)
open Text (isBlank isWord occurs unifyNewlines HasNoLineEnd)

/-! ## Type blocks -/

theorem hasBraces_cons_of_ne {c : Char} (hc : c ≠ '{') (rest : List Char) :
    hasBraces (c :: rest) = hasBraces rest := by
  simp [hasBraces, hc]

theorem hasBraces_cons_self (rest : List Char) : hasBraces ('{' :: rest) = rest.contains '}' := rfl

theorem hasBraces_unifyNewlines (text : List Char) :
    hasBraces (unifyNewlines text) = hasBraces text := by
  have hreturn : '\r' ≠ '{' := by decide
  have hfeed : '\n' ≠ '{' := by decide
  fun_induction unifyNewlines text with
  | case1 => rfl
  | case2 rest ih =>
      rw [hasBraces_cons_of_ne hfeed, hasBraces_cons_of_ne hreturn, hasBraces_cons_of_ne hfeed, ih]
  | case3 rest _ ih => rw [hasBraces_cons_of_ne hfeed, hasBraces_cons_of_ne hreturn, ih]
  | case4 c rest _ _ ih =>
      by_cases hc : c = '{'
      · subst hc
        have hclosing : '}' ∈ unifyNewlines rest ↔ '}' ∈ rest :=
          Text.mem_unifyNewlines (by decide) (by decide)
        rw [hasBraces_cons_self, hasBraces_cons_self, Bool.eq_iff_iff, List.contains_iff_mem,
          List.contains_iff_mem, hclosing]
      · rw [hasBraces_cons_of_ne hc, hasBraces_cons_of_ne hc, ih]

/-- What follows the blanks behind a keyword: the first character of a name, and braces. -/
def beginsName : List Char → Bool
  | [] => false
  | d :: more => isWord d && hasBraces more

theorem isDefinition_cons (c : Char) (rest : List Char) :
    isDefinition (c :: rest) = (isBlank c && beginsName (rest.dropWhile isBlank)) := by
  rw [isDefinition]
  cases rest.dropWhile isBlank with
  | nil => rfl
  | cons d more => rfl

theorem beginsName_unifyNewlines (text : List Char) :
    beginsName (unifyNewlines text) = beginsName text := by
  cases text with
  | nil => rfl
  | cons d more =>
      by_cases hd : d = '\r'
      · -- no name begins with a line end
        subst hd
        obtain ⟨rest, hrest⟩ := Text.exists_unifyNewlines_return more
        have hreturn : isWord '\r' = false := not_isWord_of_isBlank (by decide)
        have hfeed : isWord '\n' = false := not_isWord_of_isBlank (by decide)
        rw [hrest, beginsName, beginsName, hreturn, hfeed]
        rfl
      · rw [Text.unifyNewlines_cons hd, beginsName, beginsName, hasBraces_unifyNewlines]

/-- Blanks in front do not matter if there is one of them. -/
theorem isDefinition_blank {c d : Char} (hc : isBlank c = true) (hd : isBlank d = true)
    (rest : List Char) : isDefinition (c :: d :: rest) = isDefinition (d :: rest) := by
  rw [isDefinition_cons, isDefinition_cons, hc, hd, List.dropWhile_cons_of_pos hd]

theorem isDefinition_unifyNewlines (text : List Char) :
    isDefinition (unifyNewlines text) = isDefinition text := by
  have hskip : ∀ rest, beginsName ((unifyNewlines rest).dropWhile isBlank) =
      beginsName (rest.dropWhile isBlank) := by
    intro rest
    rw [Text.dropWhile_unifyNewlines (by decide) (by decide), beginsName_unifyNewlines]
  have hfeed : isBlank '\n' = true := by decide
  have hreturn : isBlank '\r' = true := by decide
  fun_cases unifyNewlines text with
  | case1 => rfl
  | case2 rest =>
      rw [isDefinition_blank hreturn hfeed, isDefinition_cons, isDefinition_cons, hskip]
  | case3 rest _ => rw [isDefinition_cons, isDefinition_cons, hskip, hfeed, hreturn]
  | case4 c rest _ hc => rw [isDefinition_cons, isDefinition_cons, hskip]

/-- Whether a type block begins a text. -/
def beginsBlock (keyword text : List Char) : Bool :=
  keyword.isPrefixOf text && isDefinition (text.drop keyword.length)

theorem hasTypeBlock_cons (keyword : List Char) (c : Char) (rest : List Char) :
    hasTypeBlock keyword (c :: rest) =
      (beginsBlock keyword (c :: rest) || hasTypeBlock keyword rest) := rfl

theorem beginsBlock_unifyNewlines {keyword : List Char} (h : HasNoLineEnd keyword)
    (text : List Char) : beginsBlock keyword (unifyNewlines text) = beginsBlock keyword text := by
  rw [beginsBlock, beginsBlock, Text.isPrefixOf_unifyNewlines h]
  cases hstart : keyword.isPrefixOf text with
  | false => rfl
  | true =>
      rw [Text.drop_unifyNewlines h.1 (List.isPrefixOf_iff_prefix.1 hstart),
        isDefinition_unifyNewlines]

/-- A block that begins at the line feed of a line end begins at its carriage return as well. -/
theorem beginsBlock_return {keyword : List Char} (h : HasNoLineEnd keyword) (rest : List Char) :
    beginsBlock keyword ('\r' :: '\n' :: rest) = beginsBlock keyword ('\n' :: rest) := by
  by_cases hne : keyword = []
  · subst hne
    have hreturn : isBlank '\r' = true := by decide
    have hfeed : isBlank '\n' = true := by decide
    exact isDefinition_blank hreturn hfeed rest
  · rw [beginsBlock, beginsBlock, Text.isPrefixOf_lineEnd h hne (.inl rfl),
      Text.isPrefixOf_lineEnd h hne (.inr rfl), Bool.false_and, Bool.false_and]

/-- **A type block is found with any line ends.** -/
theorem hasTypeBlock_unifyNewlines {keyword : List Char} (h : HasNoLineEnd keyword)
    (text : List Char) :
    hasTypeBlock keyword (unifyNewlines text) = hasTypeBlock keyword text := by
  fun_induction unifyNewlines text with
  | case1 => rfl
  | case2 rest ih =>
      -- two characters become one, and what begins at either of the two begins there
      have hbegins := beginsBlock_unifyNewlines h ('\r' :: '\n' :: rest)
      rw [unifyNewlines] at hbegins
      rw [hasTypeBlock_cons, hasTypeBlock_cons, hasTypeBlock_cons, hbegins, ih,
        beginsBlock_return h, ← Bool.or_assoc, Bool.or_self]
  | case3 rest hfeed ih =>
      have hbegins := beginsBlock_unifyNewlines h ('\r' :: rest)
      rw [unifyNewlines.eq_3 _ hfeed] at hbegins
      rw [hasTypeBlock_cons, hasTypeBlock_cons, hbegins, ih]
  | case4 c rest _ hc ih =>
      have hbegins := beginsBlock_unifyNewlines h (c :: rest)
      rw [Text.unifyNewlines_cons hc] at hbegins
      rw [hasTypeBlock_cons, hasTypeBlock_cons, hbegins, ih]

/-! ## All checks -/

/-- Rules whose texts lie within a line each. -/
def AreInline (rules : Rules) : Prop :=
  HasNoLineEnd rules.typeKeyword.toList ∧ HasNoLineEnd rules.sentinelSymbol.toList
    ∧ HasNoLineEnd rules.requiredDirective.toList

theorem checkBalance_unifyNewlines {opening closing : Char} (hopening : HasNoLineEnd [opening])
    (hclosing : HasNoLineEnd [closing]) (name : String) (text : List Char) :
    checkBalance (String.ofList [opening]) (String.ofList [closing]) name (unifyNewlines text) =
      checkBalance (String.ofList [opening]) (String.ofList [closing]) name text := by
  have hcount : ∀ {c : Char}, HasNoLineEnd [c] →
      Text.count [c] (unifyNewlines text) = Text.count [c] text := by
    intro c hc
    obtain ⟨hreturn, hfeed, _⟩ := hc.of_cons
    rw [Text.count_singleton, Text.count_singleton, Text.count_unifyNewlines hreturn hfeed]
  rw [checkBalance, checkBalance, String.toList_ofList, String.toList_ofList, hcount hopening,
    hcount hclosing]

theorem checkType_unifyNewlines {keyword : String} (h : HasNoLineEnd keyword.toList)
    (text : List Char) : checkType keyword (unifyNewlines text) = checkType keyword text := by
  have hspaced : HasNoLineEnd (keyword.toList ++ [' ']) := by
    obtain ⟨hreturn, hfeed⟩ := h
    constructor
    · simpa using hreturn
    · simpa using hfeed
  rw [checkType, checkType, hasTypeBlock_unifyNewlines h, Text.occurs_unifyNewlines hspaced]

theorem checkDirective_unifyNewlines {sentinel directive : String}
    (hsentinel : HasNoLineEnd sentinel.toList) (hdirective : HasNoLineEnd directive.toList)
    (text : List Char) :
    checkDirective sentinel directive (unifyNewlines text) =
      checkDirective sentinel directive text := by
  rw [checkDirective, checkDirective, Text.occurs_unifyNewlines hsentinel,
    Text.occurs_unifyNewlines hdirective]

/-- **The defects of a text are the same with any line ends.** -/
theorem defects_unifyNewlines {rules : Rules} (h : AreInline rules) (text : List Char) :
    defects rules (unifyNewlines text) = defects rules text := by
  obtain ⟨hkeyword, hsentinel, hdirective⟩ := h
  have hbraces : checkBalance "\x7b" "\x7d" "braces" (unifyNewlines text) =
      checkBalance "\x7b" "\x7d" "braces" text :=
    checkBalance_unifyNewlines (by decide) (by decide) "braces" text
  have hparentheses : checkBalance "(" ")" "parentheses" (unifyNewlines text) =
      checkBalance "(" ")" "parentheses" text :=
    checkBalance_unifyNewlines (by decide) (by decide) "parentheses" text
  rw [defects, defects, hbraces, hparentheses, checkType_unifyNewlines hkeyword,
    checkDirective_unifyNewlines hsentinel hdirective]

/-! ## Texts in files -/

/-- A question is answered if no fault is about the path and none about the question. -/
theorem faultAt_eq_none {faults : List Fault} {question : Disk.Question} {path : Path}
    (h : ∀ fault ∈ faults, fault.path ≠ path ∨ fault.question ≠ question) :
    faultAt faults question path = none := by
  rw [faultAt, Option.map_eq_none_iff, List.find?_eq_none]
  intro fault hfault hand
  rw [Bool.and_eq_true, decide_eq_true_eq, decide_eq_true_eq] at hand
  rcases h fault hfault with hpath | hquestion
  · exact hpath hand.1
  · exact hquestion hand.2

/-- A single name leads where one step from the working directory leads. -/
theorem locate_name {top : Node} {cwd place : Place} {path : Path} {name : String}
    (hsize : path.size < Disk.pathLimit) (hstart : path.isAbsolute = false)
    (hsteps : path.steps = [name]) (hstep : Disk.step top cwd name = .ok (.place place)) :
    Disk.locate top cwd path = .ok place := by
  rw [Disk.locate, if_neg (Nat.not_le.2 hsize), hstart, if_neg Bool.false_ne_true, hsteps,
    Disk.walk, hstep]
  dsimp only
  rw [Disk.walk]

/-- A path at which a file with these bytes is found. A path with a null character leads to no file,
and asking for it gives no answer. -/
structure Stores (disk : Disk) (path : Path) (bytes : List UInt8) : Prop where
  hasNoNull : path.hasNull = false
  stat : disk.stat path = .ok ()
  read : disk.read path = .ok bytes

/-- The files of a tree are found on its disk, at all paths that lead to them, unless they are
faulty. -/
theorem stores_assemble {top : Node} {cwd place : Place} {faults : List Fault} {path : Path}
    {bytes : List UInt8} (hnull : path.hasNull = false)
    (hplace : Disk.locate top cwd path = .ok place) (hfile : top.at? place = some (.file bytes))
    (hfaults : ∀ fault ∈ faults, fault.path ≠ path) :
    Stores (assemble top cwd faults) path bytes := by
  have hsound : ∀ question, faultAt faults question path = none := fun question =>
    faultAt_eq_none fun fault hfault => .inl (hfaults fault hfault)
  have hread : readAt top cwd path = .ok bytes := by
    rw [readAt, hplace]
    dsimp only
    rw [hfile]
  refine ⟨hnull, ?_, ?_⟩
  · rw [assemble]
    dsimp only
    rw [hsound, Disk.statAt_of_readAt hread]
    rfl
  · rw [assemble]
    dsimp only
    rw [hsound, hread]
    rfl

/-- A text that is stored is read, with line feeds only. -/
theorem read_stored {disk : Disk} {path : Path} {text : List Char}
    (h : Stores disk path (Text.Utf8.encode text)) :
    Source.read disk path = .ok (unifyNewlines text) := by
  rw [Source.read, h.read]
  dsimp only
  rw [textOf, Text.Utf8.decode_encode]

/-- The outcome for an entry whose text is stored. -/
theorem validateFile_stored {disk : Disk} {base : Path} {entry : String} {text : List Char}
    (rules : Rules) (h : Stores disk (pathOf base entry) (Text.Utf8.encode text)) :
    ∃ note, validateFile disk base rules entry =
      .ok (.ofText rules entry (unifyNewlines text), note) := by
  have hthere := isThere_of_ok h.stat
  have hvalidate : validateFile disk base rules entry =
      .ok (examine disk rules entry (pathOf base entry)) :=
    Disk.atPath_eq_ok _ _ _ h.hasNoNull
  rw [hvalidate, examine, hthere]
  dsimp only
  rw [read_stored h]
  exact ⟨_, rfl⟩

/-- **A text has the same defects as it is and in a file.** -/
theorem defects_stored {disk : Disk} {base : Path} {rules : Rules} {entry : String}
    {text : List Char} (hrules : AreInline rules)
    (hfile : Stores disk (pathOf base entry) (Text.Utf8.encode text)) :
    disk.atPath .read (pathOf base entry) (checkFile disk rules (pathOf base entry)) =
        .ok (defectMessages rules text)
      ∧ ∃ result note, validateFile disk base rules entry = .ok (result, note)
        ∧ result.defects = defectMessages rules text := by
  have hmessages : defectMessages rules (unifyNewlines text) = defectMessages rules text := by
    rw [defectMessages, defectMessages, defects_unifyNewlines hrules]
  constructor
  · rw [Disk.atPath_eq_ok _ _ _ hfile.hasNoNull, checkFile, read_stored hfile]
    exact congrArg Except.ok hmessages
  · obtain ⟨note, hnote⟩ := validateFile_stored rules hfile
    exact ⟨_, note, hnote, hmessages⟩

/-- Rules for sources that name what they use. -/
def usingRules : Rules where
  typeKeyword := "class"
  sentinelSymbol := "Über"
  requiredDirective := "using Über;"

/-- A text with three kinds of line ends, in which a type block goes over all of them. -/
def mixedText : List Char := "class\r\nÜberall\r\x7b\n\x7d\x7d".toList

/-- A tree in which that text is a file. -/
def mixedTree : Node :=
  .directory [("src", .directory [("A.cs", .file (Text.Utf8.encode mixedText))])]

theorem stores_mixed :
    Stores (assemble mixedTree [] []) (pathOf (Path.ofString "/src") "A.cs")
      (Text.Utf8.encode mixedText) := by
  have hdirectory : Disk.step mixedTree [] "src" = .ok (.place ["src"]) := rfl
  have hfile : Disk.step mixedTree ["src"] "A.cs" = .ok (.place ["src", "A.cs"]) := rfl
  have hsteps : (pathOf (Path.ofString "/src") "A.cs").steps = ["src", "A.cs"] := by decide
  have hstart : (pathOf (Path.ofString "/src") "A.cs").isAbsolute = true := by decide
  have hsize : ¬Disk.pathLimit ≤ (pathOf (Path.ofString "/src") "A.cs").size := by decide
  have hplace : Disk.locate mixedTree [] (pathOf (Path.ofString "/src") "A.cs") =
      .ok ["src", "A.cs"] := by
    rw [Disk.locate, if_neg hsize, if_pos hstart, hsteps, Disk.walk, hdirectory]
    dsimp only
    rw [Disk.walk, hfile]
    dsimp only
    rw [Disk.walk]
  exact stores_assemble (by decide) hplace rfl fun fault hfault => absurd hfault List.not_mem_nil

theorem defects_stored_mixed :
    AreInline usingRules
      ∧ Stores (assemble mixedTree [] []) (pathOf (Path.ofString "/src") "A.cs")
        (Text.Utf8.encode mixedText)
      ∧ (assemble mixedTree [] []).atPath .read (pathOf (Path.ofString "/src") "A.cs")
          (checkFile (assemble mixedTree [] []) usingRules
            (pathOf (Path.ofString "/src") "A.cs")) =
        .ok ["Unbalanced braces: 1 \x7b vs 2 \x7d", "Missing 'using Über;' directive"]
      ∧ ∃ result note, validateFile (assemble mixedTree [] []) (Path.ofString "/src") usingRules
          "A.cs" = .ok (result, note)
        ∧ result.defects =
          ["Unbalanced braces: 1 \x7b vs 2 \x7d", "Missing 'using Über;' directive"] := by
  have hinline : AreInline usingRules := by
    refine ⟨?_, ?_, ?_⟩ <;> decide
  have hmessages : defectMessages usingRules mixedText =
      ["Unbalanced braces: 1 \x7b vs 2 \x7d", "Missing 'using Über;' directive"] := by decide
  have hdefects := defects_stored hinline stores_mixed
  rw [hmessages] at hdefects
  exact ⟨hinline, stores_mixed, hdefects⟩

end PackageGate.Source
