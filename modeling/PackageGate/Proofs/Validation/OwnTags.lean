import PackageGate.CommandLine.Program
import PackageGate.Proofs.Markup.Tags
import PackageGate.Proofs.Validation.Literal
import PackageGate.Proofs.Validation.Returns

/-!
# No text of the user makes a tag

A sentence of the program holds at most one text of the user, between words without brackets and
backslashes (`Sentence.IsSafe`). Escaping makes its tags plain, and what it leaves open at its end
is not closed by the words behind it. So whatever the text is, the line has its own tags only
(`ownTags_mark`). This goes for the sentences of the report, for diagnostics, and for the problems
of a checklist. No such line is mistaken.
-/

namespace PackageGate

open Markup
open Report (openTag closeTag markPhrase mark)

/-! ## Texts between words -/

/-- Words without markup: no brackets and no backslashes. -/
def ArePlain (words : List Char) : Prop := ∀ c ∈ words, c ≠ '\\' ∧ c ≠ '[' ∧ c ≠ ']'

theorem ArePlain.words {words : List Char} (h : ArePlain words) :
    ∀ c ∈ words, c ≠ '\\' ∧ c ≠ '[' := fun c hc => ⟨(h c hc).1, (h c hc).2.1⟩

theorem arePlain_of_prose {words : List Char} (h : words.all isProse = true) : ArePlain words := by
  intro c hc
  exact (isProse_iff.1 (List.all_eq_true.1 h c hc)).2

/-- Words are text, whatever backslashes stand in front of them. -/
theorem exists_cut_words {words : List Char} (h : ArePlain words) (n : Nat) :
    ∃ ps k, Cut n words ps k ∧ ∀ p ∈ ps, p.IsText := by
  cases words with
  | nil => exact ⟨[], n, .nil n, fun p hp => absurd hp List.not_mem_nil⟩
  | cons c words =>
      have hc := h c List.mem_cons_self
      have hwords : ArePlain words := fun d hd => h d (List.mem_cons_of_mem c hd)
      refine ⟨_, 0, .char hc.1 hc.2.1 (cut_words hwords.words), ?_⟩
      have hslashes : List.replicate n (Piece.char '\\') = (slashes n).map .char := by
        rw [slashes, List.map_replicate]
      rw [hslashes, ← List.map_cons]
      exact isText_of_mem_append (fun p => isText_chars) fun p => isText_chars

/-- **An escaped text between words is text**, however many brackets and backslashes it has. -/
theorem exists_cut_between (words more : List Char) (hwords : ArePlain words)
    (hmore : ArePlain more) (text : List Char) :
    ∃ ps k, Cut 0 (words ++ (escape text ++ more)) ps k ∧ ∀ p ∈ ps, p.IsText := by
  obtain ⟨ps, k, h⟩ := exists_cut 0 text
  obtain ⟨qs, j, hend, hqs⟩ := exists_cut_words hmore (lastSlashes k)
  -- no bracket of the words behind closes what the text has left open
  have hseal : Sealed more := sealed_words fun hclose => (hmore ']' hclose).2.2 rfl
  refine ⟨_, j, Cut.words hwords.words ((cut_escape h).append hseal hend), ?_⟩
  exact isText_of_mem_append (fun p => isText_chars) <|
    isText_of_mem_append (fun p => isText_mapEscaped) hqs

/-! ## Sentences -/

/-- A sentence with one text of the user at most, and with words without markup around it. -/
inductive Sentence.IsSafe : Sentence → Prop where
  | words {s : Style} {words : String} : ArePlain words.toList → IsSafe ⟨s, [.fixed words]⟩
  | ending {s : Style} {words text : String} :
      ArePlain words.toList → IsSafe ⟨s, [.fixed words, .given text]⟩
  | inside {s : Style} {words text more : String} : ArePlain words.toList →
      ArePlain more.toList → IsSafe ⟨s, [.fixed words, .given text, .fixed more]⟩

theorem Sentence.IsSafe.exists_cut {s : Sentence} (h : s.IsSafe) :
    ∃ ps k, Cut 0 (s.phrases.flatMap markPhrase) ps k ∧ ∀ p ∈ ps, p.IsText := by
  cases h with
  | words hwords =>
      have := exists_cut_words hwords 0
      simpa [markPhrase] using this
  | @ending _ words text hwords =>
      have := exists_cut_between words.toList [] hwords (fun c hc => absurd hc List.not_mem_nil)
        text.toList
      simpa [markPhrase] using this
  | @inside _ words text more hwords hmore =>
      have := exists_cut_between words.toList more.toList hwords hmore text.toList
      simpa [markPhrase] using this

/-- **A safe sentence has its own tags only.** -/
theorem ownTags_mark {s : Sentence} (h : s.IsSafe) : OwnTags (mark (some s)) := by
  obtain ⟨ps, k, hcut, htext⟩ := h.exists_cut
  have hnone : ∀ c ∈ ([] : List Char), c ≠ '\\' ∧ c ≠ '[' := fun c hc => absurd hc List.not_mem_nil
  have hline := ownTags_line s.style [] [] hnone hnone hcut htext
  rwa [List.nil_append, List.append_nil] at hline

namespace Report

theorem isSafe_aboutFile {f : FileResult} {s : Sentence} (h : s ∈ aboutFile f) : s.IsSafe := by
  have hdefect : ∀ d : String, Sentence.IsSafe ⟨.bad, [.fixed "   - ", .given d]⟩ :=
    fun d => .ending (arePlain_of_prose (by decide))
  unfold aboutFile at h
  cases hstatus : f.status with
  | ok =>
      rw [hstatus] at h
      rw [List.mem_singleton.1 h]
      exact .ending (arePlain_of_prose (by decide))
  | missing =>
      rw [hstatus] at h
      rw [List.mem_singleton.1 h]
      exact .ending (arePlain_of_prose (by decide))
  | unreadable =>
      rw [hstatus] at h
      rcases List.mem_cons.1 h with rfl | h
      · exact .inside (arePlain_of_prose (by decide)) (arePlain_of_prose (by decide))
      · obtain ⟨d, _, rfl⟩ := List.mem_map.1 h
        exact hdefect d
  | defects =>
      rw [hstatus] at h
      rcases List.mem_cons.1 h with rfl | h
      · exact .inside (arePlain_of_prose (by decide)) (arePlain_of_prose (by decide))
      · obtain ⟨d, _, rfl⟩ := List.mem_map.1 h
        exact hdefect d

theorem isSafe_aboutFeature (f : Feature × Bool) : (aboutFeature f).IsSafe := by
  unfold aboutFeature
  split
  · exact .ending (arePlain_of_prose (by decide))
  · exact .ending (arePlain_of_prose (by decide))

theorem isSafe_banner (r : Result) : (banner r).IsSafe := by
  unfold banner
  split
  · exact .inside (arePlain_of_prose (by decide)) (arePlain_of_prose (by decide))
  · refine .words (arePlain_of_prose ?_)
    rw [show s!"💥 Some validation checks failed: {summary r}" =
      "💥 Some validation checks failed: " ++ summary r from rfl, String.toList_append,
      List.all_append, isProse_summary]
    decide

/-- Every sentence of a report is safe. -/
theorem isSafe_sentences {r : Result} {s : Sentence} (h : some s ∈ sentences r) : s.IsSafe := by
  simp only [sentences, List.mem_append, List.mem_cons, List.mem_map, List.mem_flatMap,
    List.not_mem_nil, or_false, reduceCtorEq, false_or, Option.some.injEq] at h
  rcases h with ((((rfl | ⟨_, ⟨f, _, hf⟩, rfl⟩) | rfl) | hskip) | ⟨_, ⟨f, _, rfl⟩, rfl⟩) | rfl
  · exact .inside (arePlain_of_prose (by decide)) (arePlain_of_prose (by decide))
  · exact isSafe_aboutFile hf
  · exact .words (arePlain_of_prose (by decide))
  · split at hskip
    · exact absurd hskip List.not_mem_nil
    · rw [List.mem_singleton, Option.some.injEq] at hskip
      rw [hskip]
      exact .inside (arePlain_of_prose (by decide)) (arePlain_of_prose (by decide))
  · exact isSafe_aboutFeature f
  · exact isSafe_banner r

end Report

/-! ## Diagnostics and problems of a checklist -/

theorem ownTags_markSentence (message : String) : OwnTags (Diagnostics.markSentence message) := by
  obtain ⟨ps, k, h⟩ := exists_cut 0 message.toList
  have hnone : ∀ c ∈ ([] : List Char), c ≠ '\\' ∧ c ≠ '[' := fun c hc => absurd hc List.not_mem_nil
  have hline := ownTags_line .faint [] [] hnone hnone (Diagnostics.cut_marker (cut_escape h))
    (Diagnostics.isText_marker fun p => isText_mapEscaped)
  rwa [List.nil_append, List.append_nil] at hline

/-- A line that lists a problem, with the lines around the list. -/
theorem ownTags_markProblems {problems : List String} {line : List Char}
    (h : line ∈ CommandLine.markProblems problems) : line = [] ∨ OwnTags line := by
  have hwords : ∀ {words : List Char}, words.all isProse = true →
      ∀ c ∈ words, c ≠ '\\' ∧ c ≠ '[' := fun hprose => (arePlain_of_prose hprose).words
  simp only [CommandLine.markProblems, List.cons_append, List.mem_cons, List.mem_append,
    List.mem_map, List.not_mem_nil, or_false] at h
  rcases h with rfl | ⟨problem, _, rfl⟩ | rfl | rfl
  · -- the line end of the heading stands behind the closing tag
    have hsame : "[bold red]Checklist Errors:[/bold red]\n".toList =
        [] ++ openTag .failure ++ "Checklist Errors:".toList ++ closeTag .failure ++ ['\n'] := by
      decide
    rw [hsame]
    exact .inr (ownTags_line .failure _ _ (by simp) (by simp) (cut_words (hwords (by decide)))
      fun p hp => isText_chars hp)
  · obtain ⟨ps, k, hcut, htext⟩ := exists_cut_between "• ".toList [] (arePlain_of_prose (by decide))
      (fun c hc => absurd hc List.not_mem_nil) problem.toList
    have hline := ownTags_line .bad [' ', ' '] [] (by simp) (by simp) hcut htext
    have hopen : "  [red]• ".toList = [' ', ' '] ++ openTag .bad ++ "• ".toList := by decide
    have hclose : "[/red]".toList = closeTag .bad := by decide
    rw [List.append_nil, List.append_nil, ← List.append_assoc, ← hopen, ← hclose] at hline
    exact .inr hline
  · exact .inl rfl
  · have hsame : "[bold red]💥 Validation not run: invalid checklist[/bold red]".toList =
        [] ++ openTag .failure ++ "💥 Validation not run: invalid checklist".toList ++
          closeTag .failure ++ [] := by
      decide
    rw [hsame]
    exact .inr (ownTags_line .failure _ _ (by simp) (by simp) (cut_words (hwords (by decide)))
      fun p hp => isText_chars hp)

/-! ## All lines with texts of the user -/

/-- Lines with their own tags only are printed. -/
theorem exists_printAll (colours : Bool) {texts : List (List Char)}
    (h : ∀ line ∈ texts, line = [] ∨ OwnTags line) : ∃ ls, printAll colours texts = .ok ls := by
  refine Diagnostics.printAll_fine colours fun line hline => ?_
  rcases h line hline with rfl | htags
  · refine ⟨[], ?_⟩
    rw [glyphs, sayings, split, splitFrom_nil]
    rfl
  · exact htags.glyphs

theorem ownTags_report {r : Result} {line : List Char}
    (h : line ∈ (Report.sentences r).map mark) : line = [] ∨ OwnTags line := by
  obtain ⟨s, hs, rfl⟩ := List.mem_map.1 h
  cases s with
  | none => exact .inl rfl
  | some s => exact .inr (ownTags_mark (Report.isSafe_sentences hs))

/-- **No text of the user makes a tag or a mistake**: each line of a report, each sentence of
diagnostics and each problem of a checklist has the tags of its own line only, and is printed. -/
theorem only_own_tags :
    (∀ (r : Result) (colours : Bool), (∃ ls, Report.lines colours r = .ok ls)
        ∧ ∀ line ∈ (Report.sentences r).map mark, line = [] ∨ OwnTags line)
      ∧ (∀ (message : String) (colours : Bool),
          (∃ ls, print colours (Diagnostics.markSentence message) = .ok ls)
            ∧ OwnTags (Diagnostics.markSentence message))
      ∧ ∀ (problems : List String) (colours : Bool),
          (∃ ls, CommandLine.problemLines colours problems = .ok ls)
            ∧ ∀ line ∈ CommandLine.markProblems problems, line = [] ∨ OwnTags line := by
  refine ⟨fun r colours => ⟨?_, fun line => ownTags_report⟩,
    fun message colours => ⟨?_, ownTags_markSentence message⟩,
    fun problems colours => ⟨?_, fun line => ownTags_markProblems⟩⟩
  · exact exists_printAll colours fun line => ownTags_report
  · obtain ⟨shown, hshown⟩ := (ownTags_markSentence message).glyphs
    rw [print, hshown]
    exact ⟨_, rfl⟩
  · exact exists_printAll colours fun line => ownTags_markProblems

/-- A missing file whose path is a tag, in a checklist whose name begins one. -/
def tagged : Result where
  checklist := ⟨⟨"[bold", ["[/red]"], "[/red]", [], {}⟩, by simp, by simp, by simp⟩
  files := [⟨"[/red]", .missing, [], none⟩]
  features := []
  featuresChecked := false

theorem tagged_own_tags :
    mark (some ⟨.bad, [.fixed "❌ Missing file: ", .given "[/red]"]⟩) ∈
        (Report.sentences tagged).map mark
      ∧ OwnTags (mark (some ⟨.bad, [.fixed "❌ Missing file: ", .given "[/red]"]⟩)) := by
  have hmem : mark (some ⟨.bad, [.fixed "❌ Missing file: ", .given "[/red]"]⟩) ∈
      (Report.sentences tagged).map mark :=
    List.mem_map_of_mem (by simp [Report.sentences, Report.aboutFile, tagged])
  refine ⟨hmem, ((only_own_tags.1 tagged false).2 _ hmem).resolve_left ?_⟩
  simp [mark, openTag]

end PackageGate
