import PackageGate.Proofs.Markup.Literal

/-!
# When the report is literal

The report should be a fixed list of lines with the texts of the user put in unchanged:
`Report.literal`. It always has these lines, one for each sentence (`prints_report`). Whether each
shows its text unchanged depends on the backslashes of the text and on what the sentence puts behind
it: the closing tag (`KeptBeforeTag`) or words (`KeptBeforeWords`). The report is literal exactly if
every text of the user stands where it is kept.
-/

namespace PackageGate

open Markup

/-- Whether a text of the user can be printed in one line. -/
def OneLine (text : String) : Prop := text.toList.all isSimple = true

instance (text : String) : Decidable (OneLine text) := inferInstanceAs (Decidable (_ = true))

/-- A text is shown as it is if it ends a sentence. -/
def KeptBeforeTag (text : String) : Prop :=
  KeepsSlashes text.toList ∧ endSlashes text.toList ≤ 1

/-- A text is shown as it is if words of the program follow in the sentence. -/
def KeptBeforeWords (text : String) : Prop :=
  KeepsSlashes text.toList ∧ endSlashes text.toList ≠ 1

/-! ## Plain texts -/

/-- A text that is printed in one line and has no backslash. -/
structure PlainLine (text : String) : Prop where
  oneLine : OneLine text
  noSlash : '\\' ∉ text.toList

instance (text : String) : Decidable (PlainLine text) :=
  decidable_of_iff (OneLine text ∧ '\\' ∉ text.toList)
    ⟨fun h => ⟨h.1, h.2⟩, fun h => ⟨h.oneLine, h.noSlash⟩⟩

theorem PlainLine.keepsSlashes {text : String} (h : PlainLine text) :
    KeepsSlashes text.toList := by
  intro front rest htext
  exact absurd (htext ▸ by simp) h.noSlash

theorem PlainLine.endSlashes_eq {text : String} (h : PlainLine text) :
    endSlashes text.toList = 0 := by
  have hnone : text.toList.reverse.takeWhile (· = '\\') = [] := by
    cases hreverse : text.toList.reverse with
    | nil => rfl
    | cons c rest =>
        have hc : ¬decide (c = '\\') = true := by
          intro hslash
          have hmem : c ∈ text.toList.reverse := by
            rw [hreverse]
            exact List.mem_cons_self
          rw [of_decide_eq_true hslash, List.mem_reverse] at hmem
          exact h.noSlash hmem
        exact List.takeWhile_cons_of_neg hc
  rw [endSlashes, hnone, List.length_nil]

theorem PlainLine.keptBeforeTag {text : String} (h : PlainLine text) : KeptBeforeTag text :=
  ⟨h.keepsSlashes, by rw [h.endSlashes_eq]; decide⟩

theorem PlainLine.keptBeforeWords {text : String} (h : PlainLine text) : KeptBeforeWords text :=
  ⟨h.keepsSlashes, by rw [h.endSlashes_eq]; decide⟩

/-! ## Texts that make one line each -/

/-- Marked-up texts are printed without a mistake as many lines as `expected` has, and these are
`expected` exactly if `kept` holds. -/
def Prints (texts : List (List Char)) (expected : List String) (kept : Prop) : Prop :=
  ∃ ls, printAll false texts = .ok ls ∧ ls.length = expected.length ∧ (ls = expected ↔ kept)

theorem Prints.nil : Prints [] [] True := ⟨[], rfl, rfl, by simp⟩

theorem Prints.append {texts more : List (List Char)} {expected rest : List String}
    {kept kept' : Prop} (h : Prints texts expected kept) (h' : Prints more rest kept') :
    Prints (texts ++ more) (expected ++ rest) (kept ∧ kept') := by
  obtain ⟨ls, hls, hlen, hiff⟩ := h
  obtain ⟨ms, hms, hlen', hiff'⟩ := h'
  refine ⟨ls ++ ms, printAll_append_eq_ok_iff.2 ⟨ls, ms, hls, hms, rfl⟩,
    by rw [List.length_append, List.length_append, hlen, hlen'], ?_⟩
  rw [← hiff, ← hiff']
  constructor
  · exact fun heq => List.append_inj heq hlen
  · rintro ⟨rfl, rfl⟩
    rfl

theorem Prints.congr {texts : List (List Char)} {expected : List String} {kept kept' : Prop}
    (h : Prints texts expected kept) (hiff : kept ↔ kept') : Prints texts expected kept' :=
  propext hiff ▸ h

/-- What is printed of each item of a list, one below the other. -/
theorem Prints.flatMap {α : Type} {l : List α} {texts : α → List (List Char)}
    {expected : α → List String} {kept : α → Prop}
    (h : ∀ x ∈ l, Prints (texts x) (expected x) (kept x)) :
    Prints (l.flatMap texts) (l.flatMap expected) (∀ x ∈ l, kept x) := by
  induction l with
  | nil => exact Prints.nil.congr (by simp)
  | cons x l ih =>
      rw [List.flatMap_cons, List.flatMap_cons]
      have hx := h x List.mem_cons_self
      have hl := ih fun y hy => h y (List.mem_cons_of_mem x hy)
      exact (hx.append hl).congr (by simp)

theorem Prints.map {α : Type} {l : List α} {text : α → List Char} {expected : α → String}
    {kept : α → Prop} (h : ∀ x ∈ l, Prints [text x] [expected x] (kept x)) :
    Prints (l.map text) (l.map expected) (∀ x ∈ l, kept x) := by
  have := Prints.flatMap h
  rwa [← List.map_eq_flatMap, ← List.map_eq_flatMap] at this

namespace Report

/-! ## The sentences of the report -/

/-- An empty line. -/
theorem prints_empty : Prints [mark none] [""] True := by
  have hglyphs : glyphs [] = .ok [] := by
    rw [glyphs, sayings, split, splitFrom_nil]
    rfl
  refine ⟨[""], ?_, rfl, by simp⟩
  rw [mark, printAll, print, hglyphs]
  rfl

/-- Words of the program. -/
theorem prints_words (s : Style) (words : String) (hwords : words.toList.all isProse = true) :
    Prints [mark (some ⟨s, [.fixed words]⟩)] [words] True := by
  have hprint := print_words s hwords
  rw [String.ofList_toList] at hprint
  refine ⟨[words], ?_, rfl, by simp⟩
  have hmark : mark (some ⟨s, [.fixed words]⟩) = openTag s ++ words.toList ++ closeTag s := by
    simp [mark, markPhrase]
  rw [printAll, hmark, hprint]
  rfl

theorem ofList_eq_iff (shown : List Char) (text : String) :
    String.ofList shown = text ↔ shown = text.toList := by
  constructor
  · rintro rfl
    rw [String.toList_ofList]
  · rintro rfl
    rw [String.ofList_toList]

/-- A text of the user at the end of a sentence. -/
theorem prints_before_tag (s : Style) (words : String) {text : String}
    (hwords : words.toList.all isProse = true) (htext : OneLine text) :
    Prints [mark (some ⟨s, [.fixed words, .given text]⟩)] [words ++ text]
      (KeptBeforeTag text) := by
  obtain ⟨shown, hprint, hiff⟩ := print_before_tag s hwords htext
  refine ⟨[String.ofList shown], ?_, rfl, ?_⟩
  · have hmark : mark (some ⟨s, [.fixed words, .given text]⟩) =
        openTag s ++ (words.toList ++ escape text.toList) ++ closeTag s := by
      simp [mark, markPhrase]
    rw [printAll, hmark, hprint]
    rfl
  · rw [List.singleton_inj, ofList_eq_iff, String.toList_append, hiff, KeptBeforeTag]

/-- A text of the user in front of words. -/
theorem prints_before_words (s : Style) (words more : String) {text : String}
    (hwords : words.toList.all isProse = true) (htext : OneLine text)
    (hmore : more.toList.all isProse = true) (hne : more.toList ≠ []) :
    Prints [mark (some ⟨s, [.fixed words, .given text, .fixed more]⟩)] [words ++ text ++ more]
      (KeptBeforeWords text) := by
  obtain ⟨shown, hprint, hiff⟩ := print_before_words s hwords htext hmore hne
  refine ⟨[String.ofList shown], ?_, rfl, ?_⟩
  · have hmark : mark (some ⟨s, [.fixed words, .given text, .fixed more]⟩) =
        openTag s ++ (words.toList ++ (escape text.toList ++ more.toList)) ++ closeTag s := by
      simp [mark, markPhrase]
    rw [printAll, hmark, hprint]
    rfl
  · rw [List.singleton_inj, ofList_eq_iff, String.toList_append, String.toList_append,
      List.append_assoc, hiff, KeptBeforeWords]

/-! ## The banner -/

theorem isProse_of_isDigit {c : Char} (h : c.isDigit = true) : isProse c = true := by
  cases hc : isProse c with
  | true => rfl
  | false =>
      exfalso
      have hcases : c = '\n' ∨ c = '\t' ∨ isDropped c = true ∨ c = '\\' ∨ c = '[' ∨ c = ']' := by
        simp only [isProse, isSimple] at hc
        grind
      simp only [isDropped, Bool.or_eq_true, decide_eq_true_eq, or_assoc] at hcases
      rcases hcases with rfl | rfl | rfl | rfl | rfl | rfl | rfl | rfl | rfl | rfl <;>
        exact absurd h (by decide)

/-- The words of a summary, apart from its numbers. -/
def summaryWords : List String :=
  ["missing file(s)", "unreadable file(s)", "file(s) with syntax issues", "missing feature(s)",
    " ", ", ", ", feature checks skipped"]

/-- A summary holds digits and the characters of its words only. -/
theorem all_summary {p : Char → Bool} (hdigit : ∀ c : Char, c.isDigit = true → p c = true)
    (hwords : ∀ w ∈ summaryWords, w.toList.all p = true) (r : Result) :
    (summary r).toList.all p = true := by
  rw [summary, String.toList_append, List.all_append, Bool.and_eq_true]
  constructor
  · refine Text.all_intercalate (hwords ", " (by decide)) fun w hw => ?_
    obtain ⟨kind, hkind, rfl⟩ := List.mem_map.1 hw
    have hname : kind.1.toList.all p = true := by
      have hcounts : kind.1 ∈ r.counts.map Prod.fst :=
        List.mem_map_of_mem (List.mem_filter.1 hkind).1
      have hkinds : r.counts.map Prod.fst ⊆ summaryWords := by simp [Result.counts, summaryWords]
      exact hwords _ (hkinds hcounts)
    have hnumber : (toString kind.2).toList.all p = true := by
      rw [show toString kind.2 = kind.2.repr from rfl, Nat.toList_repr, List.all_eq_true]
      exact fun c hc => hdigit c (Nat.isDigit_of_mem_toDigits (by decide) (by decide) hc)
    rw [show s!"{kind.2} {kind.1}" = toString kind.2 ++ " " ++ kind.1 from rfl,
      String.toList_append, String.toList_append, List.all_append, List.all_append,
      hnumber, hwords " " (by decide), hname]
    rfl
  · split
    · rfl
    · exact hwords _ (by decide)

/-- The banner of a failure holds words and numbers only. -/
theorem isProse_summary (r : Result) : (summary r).toList.all isProse = true :=
  all_summary (fun _ => isProse_of_isDigit) (by decide) r

/-! ## The literal report -/

/-- The lines about one file, with its path and its defects as they are. -/
def literalFile (f : FileResult) : List String :=
  match f.status with
  | .ok => ["✅ " ++ f.path]
  | .missing => ["❌ Missing file: " ++ f.path]
  | .unreadable => ("❌ Unreadable file " ++ f.path ++ ":") :: f.defects.map ("   - " ++ ·)
  | .defects => ("❌ Syntax issues in " ++ f.path ++ ":") :: f.defects.map ("   - " ++ ·)

/-- The line about one feature, with its label as it is. -/
def literalFeature (f : Feature × Bool) : String :=
  (if f.2 then "✅ " else "❌ Missing ") ++ f.1.label

/-- The last line. -/
def literalBanner (r : Result) : String :=
  if r.allGood then
    "🎉 All validation checks passed! ✨ " ++ r.checklist.name ++ " implementation looks good!"
  else "💥 Some validation checks failed: " ++ summary r

/-- The report with the texts of the user as they are. -/
def literal (r : Result) : List String :=
  ["🔍 Validating " ++ r.checklist.name ++ " implementation...", ""] ++
    r.files.flatMap literalFile ++
    ["", "🧪 Checking core API features..."] ++
    (if r.featuresChecked then [] else
      ["❌ Feature checks skipped: primary file " ++ r.checklist.primaryFile ++
        " is unavailable"]) ++
    r.features.map literalFeature ++
    ["", literalBanner r]

/-- The texts of the user that a report may show can each be printed in one line. -/
structure OfLines (r : Result) : Prop where
  name : OneLine r.checklist.name
  primaryFile : OneLine r.checklist.primaryFile
  path : ∀ f ∈ r.files, OneLine f.path
  defects : ∀ f ∈ r.files, ∀ d ∈ f.defects, OneLine d
  label : ∀ f ∈ r.features, OneLine f.1.label

/-- The texts of a file stand where they are kept. -/
def FileKept (f : FileResult) : Prop :=
  match f.status with
  | .ok | .missing => KeptBeforeTag f.path
  | .unreadable | .defects => KeptBeforeWords f.path ∧ ∀ d ∈ f.defects, KeptBeforeTag d

/-- Every text of the user stands where it is kept. -/
structure Kept (r : Result) : Prop where
  name : KeptBeforeWords r.checklist.name
  files : ∀ f ∈ r.files, FileKept f
  skipped : r.featuresChecked = false → KeptBeforeWords r.checklist.primaryFile
  features : ∀ f ∈ r.features, KeptBeforeTag f.1.label

theorem prints_defects {defects : List String} (h : ∀ d ∈ defects, OneLine d) :
    Prints ((defects.map fun d => (⟨.bad, [.fixed "   - ", .given d]⟩ : Sentence)).map
        (mark ∘ some))
      (defects.map ("   - " ++ ·)) (∀ d ∈ defects, KeptBeforeTag d) := by
  rw [List.map_map]
  exact Prints.map fun d hd => prints_before_tag .bad "   - " (by decide) (h d hd)

theorem prints_file {f : FileResult} (hpath : OneLine f.path)
    (hdefects : ∀ d ∈ f.defects, OneLine d) :
    Prints ((aboutFile f).map (mark ∘ some)) (literalFile f) (FileKept f) := by
  have hmore := prints_defects hdefects
  unfold aboutFile literalFile FileKept
  cases hstatus : f.status with
  | ok => exact prints_before_tag .good "✅ " (by decide) hpath
  | missing => exact prints_before_tag .bad "❌ Missing file: " (by decide) hpath
  | unreadable =>
      have hhead := prints_before_words .bad "❌ Unreadable file " ":" (by decide) hpath (by decide)
        (by decide)
      exact hhead.append hmore
  | defects =>
      have hhead := prints_before_words .bad "❌ Syntax issues in " ":" (by decide) hpath
        (by decide) (by decide)
      exact hhead.append hmore

theorem prints_feature {f : Feature × Bool} (h : OneLine f.1.label) :
    Prints [mark (some (aboutFeature f))] [literalFeature f] (KeptBeforeTag f.1.label) := by
  unfold aboutFeature literalFeature
  cases f.2 with
  | true => exact prints_before_tag .good "✅ " (by decide) h
  | false => exact prints_before_tag .bad "❌ Missing " (by decide) h

theorem prints_banner {r : Result} (h : OneLine r.checklist.name) :
    Prints [mark (some (banner r))] [literalBanner r]
      (r.allGood = true → KeptBeforeWords r.checklist.name) := by
  unfold banner literalBanner
  cases r.allGood with
  | true =>
      have := prints_before_words .success "🎉 All validation checks passed! ✨ "
        " implementation looks good!" (by decide) h (by decide) (by decide)
      exact this.congr (by simp)
  | false =>
      have hwords : ("💥 Some validation checks failed: " ++ summary r).toList.all isProse =
          true := by
        rw [String.toList_append, List.all_append, isProse_summary]
        decide
      exact (prints_words .failure _ hwords).congr (by simp)

theorem prints_skipped {r : Result} (h : OneLine r.checklist.primaryFile) :
    Prints
      ((if r.featuresChecked then [] else
        [some ⟨.bad, [.fixed "❌ Feature checks skipped: primary file ",
          .given r.checklist.primaryFile, .fixed " is unavailable"]⟩]).map mark)
      (if r.featuresChecked then [] else
        ["❌ Feature checks skipped: primary file " ++ r.checklist.primaryFile ++
          " is unavailable"])
      (r.featuresChecked = false → KeptBeforeWords r.checklist.primaryFile) := by
  cases r.featuresChecked with
  | true => exact Prints.nil.congr (by simp)
  | false =>
      have := prints_before_words .bad "❌ Feature checks skipped: primary file "
        " is unavailable" (by decide) h (by decide) (by decide)
      exact this.congr (by simp)

/-- The report has the lines of the literal report, each with what becomes of its text. -/
theorem prints_report {r : Result} (h : OfLines r) :
    Prints ((sentences r).map mark) (literal r) (Kept r) := by
  have hheading := prints_before_words .heading "🔍 Validating " " implementation..." (by decide)
    h.name (by decide) (by decide)
  have hfiles : Prints (((r.files.flatMap aboutFile).map some).map mark)
      (r.files.flatMap literalFile) (∀ f ∈ r.files, FileKept f) := by
    rw [List.map_map, List.map_flatMap]
    exact Prints.flatMap fun f hf => prints_file (h.path f hf) (h.defects f hf)
  have hchecking := prints_words .heading "🧪 Checking core API features..." (by decide)
  have hfeatures : Prints (((r.features.map aboutFeature).map some).map mark)
      (r.features.map literalFeature) (∀ f ∈ r.features, KeptBeforeTag f.1.label) := by
    rw [List.map_map, List.map_map]
    exact Prints.map fun f hf => prints_feature (h.label f hf)
  have hall := (((((hheading.append prints_empty).append hfiles).append
    (prints_empty.append hchecking)).append (prints_skipped h.primaryFile)).append
      hfeatures).append (prints_empty.append (prints_banner h.name))
  unfold sentences literal
  simp only [List.map_append]
  refine hall.congr ?_
  constructor
  · rintro ⟨⟨⟨⟨⟨⟨hname, _⟩, hfile⟩, _⟩, hskip⟩, hlabel⟩, _⟩
    exact ⟨hname, hfile, hskip, hlabel⟩
  · rintro ⟨hname, hfile, hskip, hlabel⟩
    exact ⟨⟨⟨⟨⟨⟨hname, trivial⟩, hfile⟩, trivial, trivial⟩, hskip⟩, hlabel⟩, trivial,
      fun _ => hname⟩

/-- **The report is literal exactly if every text of the user stands where it is kept.** -/
theorem lines_eq_literal_iff (r : Result) (h : OfLines r) :
    ∃ ls, lines false r = .ok ls ∧ (ls = literal r ↔ Kept r) := by
  obtain ⟨ls, hls, _, hiff⟩ := prints_report h
  exact ⟨ls, hls, hiff⟩

/-- A file whose path ends with a backslash, and which could not be read. -/
def slashed : Result where
  checklist := ⟨⟨"N", ["A.cs\\"], "A.cs\\", [], {}⟩, by simp, by simp, by simp⟩
  files := [⟨"A.cs\\", .unreadable, ["d"], none⟩]
  features := []
  featuresChecked := false

theorem lines_slashed_ne_literal :
    OfLines slashed ∧ ∃ ls, lines false slashed = .ok ls ∧ ls ≠ literal slashed := by
  have hlines : OfLines slashed :=
    ⟨by decide, by decide, by decide, by decide, by decide⟩
  obtain ⟨ls, hls, hiff⟩ := lines_eq_literal_iff slashed hlines
  refine ⟨hlines, ls, hls, fun heq => ?_⟩
  -- words follow the one backslash at the end of the path
  have hpath := ((hiff.1 heq).files _ List.mem_cons_self).1
  exact hpath.2 (by decide)

end Report

end PackageGate
