import PackageGate.Proofs.Validation.Literal
import PackageGate.Proofs.Validation.Verdict

/-!
# The report tells one result from another

What a run came to can be read off its report: two runs with the same report tell the same of the
same files and features (`report_unambiguous`), if no text of the user holds a backslash or a
character that is not printed in its place. It does not matter what else stands in these texts, be
it the words of the report itself.

Such a report is literal (`lines_of_plain`), so that it is enough to take the literal report apart.
Empty lines stand between its parts and nowhere else. Each line is one of several kinds, which begin
with words of their own, and no text of the user comes before these words (`IsApart`). The lines of
one file end where the next line is no defect.
-/

namespace PackageGate

open Disk (Path)
open Markup

namespace Report

/-- The texts of the user that a report may show are plain. -/
structure OfPlainLines (r : Result) : Prop where
  name : PlainLine r.checklist.name
  primaryFile : PlainLine r.checklist.primaryFile
  path : ∀ f ∈ r.files, PlainLine f.path
  defects : ∀ f ∈ r.files, ∀ d ∈ f.defects, PlainLine d
  label : ∀ f ∈ r.features, PlainLine f.1.label

/-- **A report of plain texts is literal.** -/
theorem lines_of_plain {r : Result} (h : OfPlainLines r) : lines false r = .ok (literal r) := by
  have hlines : OfLines r :=
    ⟨h.name.oneLine, h.primaryFile.oneLine, fun f hf => (h.path f hf).oneLine,
      fun f hf d hd => (h.defects f hf d hd).oneLine, fun f hf => (h.label f hf).oneLine⟩
  have hfile : ∀ f ∈ r.files, FileKept f := by
    intro f hf
    have hpath := h.path f hf
    have hdefects : ∀ d ∈ f.defects, KeptBeforeTag d :=
      fun d hd => (h.defects f hf d hd).keptBeforeTag
    unfold FileKept
    cases f.status with
    | ok => exact hpath.keptBeforeTag
    | missing => exact hpath.keptBeforeTag
    | unreadable => exact ⟨hpath.keptBeforeWords, hdefects⟩
    | defects => exact ⟨hpath.keptBeforeWords, hdefects⟩
  have hkept : Kept r :=
    ⟨h.name.keptBeforeWords, hfile, fun _ => h.primaryFile.keptBeforeWords,
      fun f hf => (h.label f hf).keptBeforeTag⟩
  obtain ⟨ls, hls, _, hiff⟩ := prints_report hlines
  rw [lines, hls, hiff.2 hkept]

/-! ## Words that tell lines apart -/

/-- Neither of two words begins with the other. -/
def IsApart (words other : String) : Prop :=
  ¬words.toList <+: other.toList ∧ ¬other.toList <+: words.toList

instance (words other : String) : Decidable (IsApart words other) := by
  unfold IsApart
  infer_instance

/-- Whatever follows such words, the lines are different. -/
theorem IsApart.append_ne {words other : String} (h : IsApart words other) (s t : String) :
    words ++ s ≠ other ++ t := by
  intro heq
  have hlist : words.toList ++ s.toList = other.toList ++ t.toList := by
    rw [← String.toList_append, heq, String.toList_append]
  have hwords : words.toList <+: other.toList ++ t.toList := ⟨s.toList, hlist⟩
  have hother : other.toList <+: other.toList ++ t.toList := List.prefix_append _ _
  rcases List.prefix_or_prefix_of_prefix hwords hother with hpre | hpre
  · exact h.1 hpre
  · exact h.2 hpre

/-! ## Where a part of the report ends -/

/-- Two lists of lines that each end where a line of a kind comes first are the same if what follows
is joined to them. -/
theorem append_inj_of_cut (isCut : String → Bool) {above above' below below' : List String}
    (habove : ∀ l ∈ above, isCut l = false) (habove' : ∀ l ∈ above', isCut l = false)
    (hbelow : ∀ l ∈ below.head?, isCut l = true) (hbelow' : ∀ l ∈ below'.head?, isCut l = true)
    (heq : above ++ below = above' ++ below') : above = above' ∧ below = below' := by
  induction above generalizing above' with
  | nil =>
      cases above' with
      | nil => exact ⟨rfl, heq⟩
      | cons l above' =>
          rw [List.nil_append] at heq
          have hcut := hbelow l (by rw [heq]; rfl)
          rw [habove' l List.mem_cons_self] at hcut
          cases hcut
  | cons l above ih =>
      cases above' with
      | nil =>
          rw [List.nil_append] at heq
          have hcut := hbelow' l (by rw [← heq]; rfl)
          rw [habove l List.mem_cons_self] at hcut
          cases hcut
      | cons l' above' =>
          rw [List.cons_append, List.cons_append, List.cons.injEq] at heq
          obtain ⟨rfl, hrest⟩ := heq
          obtain ⟨rfl, rfl⟩ := ih (fun x hx => habove x (List.mem_cons_of_mem l hx))
            (fun x hx => habove' x (List.mem_cons_of_mem l hx)) hrest
          exact ⟨rfl, rfl⟩

/-! ## The lines of the files -/

/-- What a report tells of a file. -/
def finding (f : FileResult) : String × Status × List String := (f.path, f.status, f.defects)

/-- The words in front of the path of a file. -/
def fileWords : Status → String
  | .ok => "✅ "
  | .missing => "❌ Missing file: "
  | .unreadable => "❌ Unreadable file "
  | .defects => "❌ Syntax issues in "

/-- What stands behind the path of a file. -/
def fileEnd : Status → String
  | .ok | .missing => ""
  | .unreadable | .defects => ":"

/-- The line of a file that its defects follow. -/
def fileHeading (f : FileResult) : String := fileWords f.status ++ f.path ++ fileEnd f.status

theorem isApart_fileWords {s t : Status} (h : s ≠ t) : IsApart (fileWords s) (fileWords t) := by
  have hall : ∀ s ∈ Status.all, ∀ t ∈ Status.all, s ≠ t → IsApart (fileWords s) (fileWords t) := by
    decide
  have hmem : ∀ s, s ∈ Status.all := by
    intro s
    cases s <;> decide
  exact hall s (hmem s) t (hmem t) h

theorem fileHeading_injective {f g : FileResult} (h : fileHeading f = fileHeading g) :
    f.path = g.path ∧ f.status = g.status := by
  have hstatus : f.status = g.status := by
    by_cases hne : f.status = g.status
    · exact hne
    · rw [fileHeading, fileHeading, String.append_assoc, String.append_assoc] at h
      exact absurd h ((isApart_fileWords hne).append_ne _ _)
  rw [fileHeading, fileHeading, hstatus, String.append_left_inj, String.append_right_inj] at h
  exact ⟨h, hstatus⟩

/-- Only files with defects have any, and files that were not read. -/
def IsTold (f : FileResult) : Prop := f.status = .ok ∨ f.status = .missing → f.defects = []

theorem literalFile_eq {f : FileResult} (h : IsTold f) :
    literalFile f = fileHeading f :: f.defects.map ("   - " ++ ·) := by
  rw [literalFile, fileHeading]
  cases hstatus : f.status with
  | ok =>
      rw [h (.inl hstatus)]
      simp [fileWords, fileEnd]
  | missing =>
      rw [h (.inr hstatus)]
      simp [fileWords, fileEnd]
  | unreadable => rfl
  | defects => rfl

/-- No line about a file is empty. -/
theorem ne_empty_of_mem_literalFile {f : FileResult} (h : IsTold f) {line : String}
    (hline : line ∈ literalFile f) : line ≠ "" := by
  have hwords : fileWords f.status ≠ "" := by
    cases f.status with
    | ok => decide
    | missing => decide
    | unreadable => decide
    | defects => decide
  rw [literalFile_eq h, List.mem_cons] at hline
  intro hempty
  subst hempty
  cases hline with
  | inl hheading =>
      rw [fileHeading, String.append_assoc] at hheading
      exact hwords (String.append_eq_empty_iff.1 hheading.symm).1
  | inr hdefect =>
      obtain ⟨d, _, hd⟩ := List.mem_map.1 hdefect
      exact absurd (String.append_eq_empty_iff.1 hd).1 (by decide)

/-- Whether a line is not about a defect. -/
def isHeading (line : String) : Bool := !"   - ".toList.isPrefixOf line.toList

theorem isHeading_defect (d : String) : isHeading ("   - " ++ d) = false := by
  rw [isHeading, String.toList_append, Bool.not_eq_false']
  exact List.isPrefixOf_iff_prefix.2 (List.prefix_append _ _)

theorem isHeading_fileHeading (f : FileResult) : isHeading (fileHeading f) = true := by
  have happart : IsApart "   - " (fileWords f.status) := by
    cases f.status with
    | ok => decide
    | missing => decide
    | unreadable => decide
    | defects => decide
  rw [isHeading, Bool.not_eq_true', ← Bool.not_eq_true, List.isPrefixOf_iff_prefix]
  rintro ⟨rest, hrest⟩
  have htail : (String.ofList rest).toList = rest := String.toList_ofList
  have hline : "   - " ++ String.ofList rest = fileHeading f := by
    rw [← String.toList_inj, String.toList_append, htail, hrest]
  rw [fileHeading, String.append_assoc] at hline
  exact happart.append_ne _ _ hline

/-- The lines of files tell what was found, file by file. -/
theorem findings_eq {files files' : List FileResult} (h : ∀ f ∈ files, IsTold f)
    (h' : ∀ f ∈ files', IsTold f)
    (heq : files.flatMap literalFile = files'.flatMap literalFile) :
    files.map finding = files'.map finding := by
  have hhead : ∀ {l : List FileResult}, (∀ f ∈ l, IsTold f) →
      ∀ line ∈ (l.flatMap literalFile).head?, isHeading line = true := by
    intro l hl line hline
    cases l with
    | nil => cases hline
    | cons f l =>
        rw [List.flatMap_cons, literalFile_eq (hl f List.mem_cons_self)] at hline
        cases hline
        exact isHeading_fileHeading f
  induction files generalizing files' with
  | nil =>
      cases files' with
      | nil => rfl
      | cons g files' =>
          rw [List.flatMap_cons, literalFile_eq (h' g List.mem_cons_self)] at heq
          cases heq
  | cons f files ih =>
      cases files' with
      | nil =>
          rw [List.flatMap_cons, literalFile_eq (h f List.mem_cons_self)] at heq
          cases heq
      | cons g files' =>
          rw [List.forall_mem_cons] at h h'
          rw [List.flatMap_cons, List.flatMap_cons, literalFile_eq h.1, literalFile_eq h'.1,
            List.cons_append, List.cons_append, List.cons.injEq] at heq
          obtain ⟨hheading, hrest⟩ := heq
          obtain ⟨hpath, hstatus⟩ := fileHeading_injective hheading
          have hdefects : ∀ {f : FileResult}, ∀ line ∈ f.defects.map ("   - " ++ ·),
              isHeading line = false := by
            intro f line hline
            obtain ⟨d, _, rfl⟩ := List.mem_map.1 hline
            exact isHeading_defect d
          -- the defects of a file end where the next heading stands
          obtain ⟨hlist, hmore⟩ :=
            append_inj_of_cut isHeading hdefects hdefects (hhead h.2) (hhead h'.2) hrest
          have hdetails : f.defects = g.defects :=
            (List.map_inj_right fun _ _ hst => (String.append_right_inj _).1 hst).1 hlist
          rw [List.map_cons, List.map_cons, ih h.2 h'.2 hmore, finding, finding, hpath, hstatus,
            hdetails]

/-! ## The lines of the features -/

/-- The words in front of the label of a feature. -/
def featureWords (present : Bool) : String := if present then "✅ " else "❌ Missing "

theorem literalFeature_eq (f : Feature × Bool) :
    literalFeature f = featureWords f.2 ++ f.1.label := rfl

theorem literalFeature_injective {f g : Feature × Bool} (h : literalFeature f = literalFeature g) :
    (f.1.label, f.2) = (g.1.label, g.2) := by
  have happart : ∀ {present : Bool}, IsApart (featureWords present) (featureWords !present) := by
    decide
  have hpresent : f.2 = g.2 := by
    by_cases hne : f.2 = g.2
    · exact hne
    · rw [literalFeature_eq, literalFeature_eq, Bool.eq_not_of_ne (Ne.symm hne)] at h
      exact absurd h (happart.append_ne _ _)
  rw [literalFeature_eq, literalFeature_eq, hpresent, String.append_right_inj] at h
  rw [h, hpresent]

/-- The words in front of the primary file if the features are not looked for. -/
def skippedWords : String := "❌ Feature checks skipped: primary file "

/-- The lines between the last heading and the last empty line. -/
def featureLines (r : Result) : List String :=
  (if r.featuresChecked then [] else
    [skippedWords ++ r.checklist.primaryFile ++ " is unavailable"]) ++
      r.features.map literalFeature

theorem presence_eq {features features' : List (Feature × Bool)}
    (heq : features.map literalFeature = features'.map literalFeature) :
    features.map (fun f => (f.1.label, f.2)) = features'.map (fun f => (f.1.label, f.2)) := by
  induction features generalizing features' with
  | nil =>
      cases features' with
      | nil => rfl
      | cons g features' => cases heq
  | cons f features ih =>
      cases features' with
      | nil => cases heq
      | cons g features' =>
          rw [List.map_cons, List.map_cons, List.cons.injEq] at heq
          rw [List.map_cons, List.map_cons, literalFeature_injective heq.1, ih heq.2]

theorem literalFeature_ne_skipped (f : Feature × Bool) (s : String) :
    literalFeature f ≠ skippedWords ++ s := by
  have happart : ∀ present, IsApart (featureWords present) skippedWords := by decide
  exact (happart f.2).append_ne _ _

/-- The lines of the features tell whether they were looked for, and which were found. -/
theorem features_eq {r r' : Result} (h : r.featuresChecked = false → r.features = [])
    (h' : r'.featuresChecked = false → r'.features = []) (heq : featureLines r = featureLines r') :
    r.featuresChecked = r'.featuresChecked
      ∧ r.features.map (fun f => (f.1.label, f.2)) =
        r'.features.map (fun f => (f.1.label, f.2)) := by
  -- a line about a feature never says that the features are skipped
  have hskipped : ∀ {features : List (Feature × Bool)} {s : String},
      features.map literalFeature ≠ [skippedWords ++ s] := by
    intro features s hlines
    cases features with
    | nil => cases hlines
    | cons f features =>
        exact literalFeature_ne_skipped f s (List.cons.inj hlines).1
  rw [featureLines, featureLines] at heq
  cases hchecked : r.featuresChecked with
  | true =>
      cases hchecked' : r'.featuresChecked with
      | true =>
          rw [hchecked, hchecked', if_pos rfl, if_pos rfl] at heq
          exact ⟨rfl, presence_eq heq⟩
      | false =>
          rw [hchecked, hchecked', if_pos rfl, if_neg Bool.false_ne_true, h' hchecked',
            String.append_assoc] at heq
          exact absurd heq hskipped
  | false =>
      cases hchecked' : r'.featuresChecked with
      | true =>
          rw [hchecked, hchecked', if_pos rfl, if_neg Bool.false_ne_true, h hchecked,
            String.append_assoc] at heq
          exact absurd heq.symm hskipped
      | false => exact ⟨rfl, by rw [h hchecked, h' hchecked']⟩

/-! ## The whole report -/

/-- What can be read off a report is the same for both results. -/
structure SameFindings (r r' : Result) : Prop where
  name : r.checklist.name = r'.checklist.name
  files : r.files.map finding = r'.files.map finding
  featuresChecked : r.featuresChecked = r'.featuresChecked
  features : r.features.map (fun f => (f.1.label, f.2)) =
    r'.features.map (fun f => (f.1.label, f.2))
  exitCode : r.exitCode = r'.exitCode

/-- The exit code follows from the statuses and from what was found of the features. -/
theorem allGood_eq (r : Result) :
    r.allGood = ((r.files.map finding).all (fun file => file.2.1 = .ok) && r.featuresChecked
      && (r.features.map fun f => (f.1.label, f.2)).all (·.2)) := by
  have hclean : (r.files.map finding).all (fun file => file.2.1 = .ok) =
      r.files.all (·.isClean) := by
    rw [List.all_map]
    rfl
  have hfound : (r.features.map fun f => (f.1.label, f.2)).all (·.2) =
      r.missingFeatures.isEmpty := by
    rw [Bool.eq_iff_iff, List.isEmpty_iff, Result.missingFeatures_eq_nil_iff, List.all_map,
      List.all_eq_true]
    rfl
  rw [hclean, hfound]
  rfl

/-- The parts of the literal report, with empty lines in between. -/
theorem literal_eq (r : Result) :
    literal r = ("🔍 Validating " ++ r.checklist.name ++ " implementation...") :: "" ::
      (r.files.flatMap literalFile ++
        "" :: "🧪 Checking core API features..." :: (featureLines r ++ ["", literalBanner r])) := by
  rw [literal, featureLines, skippedWords]
  simp only [List.append_assoc, List.cons_append, List.nil_append]

/-- **Two literal reports with the same lines tell the same.** -/
theorem sameFindings_of_literal {r r' : Result} (hfiles : ∀ f ∈ r.files, IsTold f)
    (hfiles' : ∀ f ∈ r'.files, IsTold f) (hfeatures : r.featuresChecked = false → r.features = [])
    (hfeatures' : r'.featuresChecked = false → r'.features = [])
    (heq : literal r = literal r') : SameFindings r r' := by
  -- no line about a file is empty, so that the files end at the next empty line
  have hnotEmpty : ∀ {files : List FileResult}, (∀ f ∈ files, IsTold f) →
      ∀ line ∈ files.flatMap literalFile, decide (line = "") = false := by
    intro files hfiles line hline
    obtain ⟨f, hf, hline⟩ := List.mem_flatMap.1 hline
    exact decide_eq_false (ne_empty_of_mem_literalFile (hfiles f hf) hline)
  rw [literal_eq, literal_eq, List.cons.injEq, List.cons.injEq, String.append_left_inj,
    String.append_right_inj] at heq
  obtain ⟨hname, _, hbody⟩ := heq
  obtain ⟨habove, hbelow⟩ := append_inj_of_cut (fun line => decide (line = ""))
    (hnotEmpty hfiles) (hnotEmpty hfiles')
    (fun line hline => by cases hline; rfl) (fun line hline => by cases hline; rfl) hbody
  have hlines : featureLines r = featureLines r' := by
    have hrest := (List.cons.inj (List.cons.inj hbelow).2).2
    exact (List.append_inj' hrest rfl).1
  have hfindings := findings_eq hfiles hfiles' habove
  obtain ⟨hchecked, hpresence⟩ := features_eq hfeatures hfeatures' hlines
  have hgood : r.allGood = r'.allGood := by
    rw [allGood_eq, allGood_eq, hfindings, hchecked, hpresence]
  exact ⟨hname, hfindings, hchecked, hpresence, by rw [Result.exitCode, Result.exitCode, hgood]⟩

/-- A run gives defects only to files that have any. -/
theorem isTold_of_describes {disk : Disk} {c : Checklist} {base : Path} {r : Result}
    (h : r.Describes disk c base) : ∀ f ∈ r.files, IsTold f := by
  intro f hf hstatus
  have houtcome := h.outcome f hf
  cases hstatus with
  | inl hok =>
      obtain ⟨_, _, _, _, _, hiff⟩ := houtcome.of_read (.inl hok)
      exact hiff.1 hok
  | inr hmissing => exact (houtcome.of_missing hmissing).1

/-- **Two runs with the same report tell the same**, if their texts are plain. -/
theorem report_unambiguous {disk disk' : Disk} {c c' : Checklist} {base base' : Path}
    {r r' : Result} {notes notes' : List Note} (hrun : run disk c base = .ok (r, notes))
    (hrun' : run disk' c' base' = .ok (r', notes')) (h : OfPlainLines r) (h' : OfPlainLines r')
    (heq : lines false r = lines false r') :
    (∃ ls, lines false r = .ok ls) ∧ SameFindings r r' := by
  have hdescribes := run_describes hrun
  have hdescribes' := run_describes hrun'
  have hliteral := lines_of_plain h
  rw [hliteral, lines_of_plain h', Except.ok.injEq] at heq
  exact ⟨⟨_, hliteral⟩, sameFindings_of_literal (isTold_of_describes hdescribes)
    (isTold_of_describes hdescribes') hdescribes.unchecked hdescribes'.unchecked heq⟩

/-- A checklist with texts that read like lines of a report, and one of two markers. -/
def awkward (opening : Bool) : Checklist where
  name := "[red]✅ Missing file: "
  manifest := ["A.cs", "✅ [/]Unreadable file B.cs:"]
  primaryFile := "A.cs"
  features := [⟨if opening then "\x7b" else "\x7d", "Missing 🧪 [bold"⟩]
  manifest_ne_nil := by simp
  manifest_nodup := by decide
  primaryFile_mem := by simp

theorem awkward_free (opening : Bool) :
    ∀ e ∈ (awkward opening).manifest, ¬Blocks oneFile ⟨0, []⟩ e := by
  have hnull : ∀ e ∈ ["A.cs", "✅ [/]Unreadable file B.cs:"],
      (pathOf ⟨0, []⟩ e).hasNull = false := by decide
  exact fun e he => not_blocks_of_hasNull (hnull e he)

theorem awkward_plain (opening : Bool) :
    OfPlainLines (told oneFile (awkward opening) ⟨0, []⟩).1 := by
  cases opening with
  | true => exact ⟨by decide, by decide, by decide, by decide, by decide⟩
  | false => exact ⟨by decide, by decide, by decide, by decide, by decide⟩

theorem awkward_unambiguous : ∃ r notes r' notes',
    run oneFile (awkward true) ⟨0, []⟩ = .ok (r, notes)
      ∧ run oneFile (awkward false) ⟨0, []⟩ = .ok (r', notes')
      ∧ OfPlainLines r ∧ OfPlainLines r' ∧ lines false r = lines false r' ∧ r ≠ r'
      ∧ SameFindings r r' := by
  have hrun := (run_eq_ok_iff oneFile (awkward true) ⟨0, []⟩ _).2 ⟨awkward_free true, rfl⟩
  have hrun' := (run_eq_ok_iff oneFile (awkward false) ⟨0, []⟩ _).2 ⟨awkward_free false, rfl⟩
  have heq : lines false (told oneFile (awkward true) ⟨0, []⟩).1 =
      lines false (told oneFile (awkward false) ⟨0, []⟩).1 := by
    rw [lines_of_plain (awkward_plain true), lines_of_plain (awkward_plain false)]
    rfl
  have hsame := report_unambiguous hrun hrun' (awkward_plain true) (awkward_plain false) heq
  exact ⟨_, _, _, _, hrun, hrun', awkward_plain true, awkward_plain false, heq, by decide, hsame.2⟩

end Report

end PackageGate
