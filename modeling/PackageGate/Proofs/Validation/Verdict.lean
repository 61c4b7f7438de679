import Mathlib.Algebra.GroupWithZero.Nat
import PackageGate.Proofs.Validation.Banner
import PackageGate.Proofs.Validation.Run

/-!
# Exit code, numbers and banner agree

The exit code of a result looks at whether the features were checked, and the numbers of what failed
do not. For a result in general the two may differ. For what a run tells they agree, since features
are only skipped if the primary file is missing or unreadable, and that file is counted
(`Result.Describes.skipped`). So a failed run always has something to name first in its banner.

All of it is read off `Result.Describes`; the disk plays no further part.
-/

namespace PackageGate

open Disk (Path)
open Markup (painted)

namespace Result

/-- A file could not be read. -/
def IsUnavailable (r : Result) (path : String) : Prop :=
  ∃ f ∈ r.files, f.path = path ∧ (f.status = .missing ∨ f.status = .unreadable)

/-- The exit code, the numbers of what failed and the banner agree with each other, and with the
files and the features. -/
structure Agrees (c : Checklist) (r : Result) : Prop where
  paths : r.files.map (·.path) = c.manifest
  exitCode_le : r.exitCode ≤ 1
  /-- The exit code is zero if every file is fine, and the text of the primary file holds every
  marker. -/
  passed_iff : r.exitCode = 0 ↔ (∀ f ∈ r.files, f.status = .ok)
    ∧ ∃ primary ∈ r.files, primary.path = c.primaryFile
      ∧ ∃ text, primary.content = some text ∧ ∀ f ∈ c.features, f.marker.toList <:+: text
  none_iff : r.exitCode = 0 ↔ ∀ kind ∈ r.counts, kind.2 = 0
  skipped : r.featuresChecked = false →
    (r.pathsWith .missing).length ≠ 0 ∨ (r.pathsWith .unreadable).length ≠ 0
  /-- Each entry of the manifest is counted once. -/
  sum_statuses : (Status.all.map fun s => (r.pathsWith s).length).sum = c.manifest.length
  /-- The banner of a failure names the kinds that occurred in their order, at least one of them,
  and then the skipped features. It is printed last. -/
  failed : r.exitCode = 1 → ∃ first rest ending,
    r.counts.filter (·.2 ≠ 0) = first :: rest
      ∧ (r.IsUnavailable c.primaryFile ∧ ending = ["feature checks skipped"]
        ∨ ¬r.IsUnavailable c.primaryFile ∧ ending = [])
      ∧ ∀ colours lines, Report.lines colours r = .ok lines →
        lines.getLast? = some (painted colours .failure ("💥 Some validation checks failed: " ++
          ", ".intercalate ((first :: rest).map (fun kind => s!"{kind.2} {kind.1}") ++ ending)))

/-! ## Numbers -/

theorem length_pathsWith (r : Result) (s : Status) :
    (r.pathsWith s).length = (r.files.filter (·.status = s)).length := List.length_map _

theorem pathsWith_eq_nil_iff {r : Result} {s : Status} :
    r.pathsWith s = [] ↔ ∀ f ∈ r.files, f.status ≠ s := by
  simp [pathsWith, List.filter_eq_nil_iff]

/-- Every file has one of the statuses. -/
theorem sum_statuses (files : List FileResult) :
    (Status.all.map fun s => (files.filter (·.status = s)).length).sum = files.length := by
  induction files with
  | nil => rfl
  | cons f files ih =>
      simp only [Status.all, List.map_cons, List.map_nil, List.sum_cons, List.sum_nil] at ih
      cases hstatus : f.status <;> simp [Status.all, hstatus] <;> omega

theorem missingFeatures_eq_nil_iff {r : Result} :
    r.missingFeatures = [] ↔ ∀ f ∈ r.features, f.2 = true := by
  simp [missingFeatures, List.filter_eq_nil_iff]

/-- Nothing is counted if every file is fine and no feature is missing. -/
theorem counts_eq_zero_iff {r : Result} :
    (∀ kind ∈ r.counts, kind.2 = 0) ↔
      (∀ f ∈ r.files, f.status = .ok) ∧ r.missingFeatures = [] := by
  simp only [counts, List.forall_mem_cons, List.not_mem_nil, false_imp_iff, implies_true, and_true,
    List.length_eq_zero_iff, pathsWith_eq_nil_iff]
  constructor
  · rintro ⟨hmissing, hunreadable, hdefects, hfeatures⟩
    refine ⟨fun f hf => ?_, hfeatures⟩
    cases hstatus : f.status with
    | ok => rfl
    | missing => exact absurd hstatus (hmissing f hf)
    | unreadable => exact absurd hstatus (hunreadable f hf)
    | defects => exact absurd hstatus (hdefects f hf)
  · rintro ⟨hfiles, hfeatures⟩
    refine ⟨?_, ?_, ?_, hfeatures⟩ <;> (intro f hf; rw [hfiles f hf]; decide)

theorem allGood_iff {r : Result} :
    r.allGood = true ↔ (∀ f ∈ r.files, f.status = .ok) ∧ r.featuresChecked = true
      ∧ r.missingFeatures = [] := by
  simp [allGood, FileResult.isClean, and_assoc]

/-! ## The primary file -/

section Describes

variable {disk : Disk} {c : Checklist} {base : Path} {r : Result}

/-- There is one outcome for the primary file. -/
theorem Describes.exists_primary (h : r.Describes disk c base) :
    ∃ file ∈ r.files, (∀ f ∈ r.files, f.path = c.primaryFile ↔ f = file)
      ∧ (r.featuresChecked = true ↔ file.status = .ok ∨ file.status = .defects)
      ∧ ∀ text, file.content = some text → r.features.map (·.1) = c.features
        ∧ ∀ f ∈ r.features, (f.2 = true ↔ f.1.marker.toList <:+: text) := by
  obtain ⟨file, hfilter, hchecked, hfeatures⟩ := h.primary
  have hmem : ∀ f, f ∈ r.files ∧ f.path = c.primaryFile ↔ f = file := by
    intro f
    have hiff : f ∈ r.files.filter (·.path = c.primaryFile) ↔ _ := List.mem_filter
    rw [hfilter, List.mem_singleton, decide_eq_true_eq] at hiff
    exact hiff.symm
  exact ⟨file, ((hmem file).2 rfl).1, fun f hf => ⟨fun hp => (hmem f).1 ⟨hf, hp⟩,
    fun heq => ((hmem f).2 heq).2⟩, hchecked, hfeatures⟩

/-- The features are skipped exactly if the primary file could not be read. -/
theorem Describes.featuresChecked_eq_false_iff (h : r.Describes disk c base) :
    r.featuresChecked = false ↔ r.IsUnavailable c.primaryFile := by
  obtain ⟨file, hfile, hunique, hchecked, _⟩ := h.exists_primary
  rw [← Bool.not_eq_true, hchecked]
  constructor
  · intro hnot
    refine ⟨file, hfile, (hunique file hfile).2 rfl, ?_⟩
    cases hstatus : file.status with
    | ok => exact absurd (.inl hstatus) hnot
    | defects => exact absurd (.inr hstatus) hnot
    | missing => exact .inl rfl
    | unreadable => exact .inr rfl
  · rintro ⟨f, hf, hpath, hstatus⟩
    obtain rfl := (hunique f hf).1 hpath
    rcases hstatus with hstatus | hstatus <;> simp [hstatus]

/-- Skipped features leave a file that is counted. -/
theorem Describes.skipped (h : r.Describes disk c base) (hskipped : r.featuresChecked = false) :
    (r.pathsWith .missing).length ≠ 0 ∨ (r.pathsWith .unreadable).length ≠ 0 := by
  obtain ⟨f, hf, _, hstatus⟩ := h.featuresChecked_eq_false_iff.1 hskipped
  rcases hstatus with hstatus | hstatus
  · refine .inl fun hzero => ?_
    exact pathsWith_eq_nil_iff.1 (List.length_eq_zero_iff.1 hzero) f hf hstatus
  · refine .inr fun hzero => ?_
    exact pathsWith_eq_nil_iff.1 (List.length_eq_zero_iff.1 hzero) f hf hstatus

/-- If every file is fine, the features were checked. -/
theorem Describes.featuresChecked_of_ok (h : r.Describes disk c base)
    (hok : ∀ f ∈ r.files, f.status = .ok) : r.featuresChecked = true := by
  obtain ⟨file, hfile, _, hchecked, _⟩ := h.exists_primary
  exact hchecked.2 (.inl (hok file hfile))

/-- **The exit code is zero exactly if nothing is counted.** -/
theorem Describes.exitCode_eq_zero_iff_counts (h : r.Describes disk c base) :
    r.exitCode = 0 ↔ ∀ kind ∈ r.counts, kind.2 = 0 := by
  rw [exitCode_eq_zero_iff, allGood_iff, counts_eq_zero_iff]
  exact ⟨fun hgood => ⟨hgood.1, hgood.2.2⟩,
    fun hnone => ⟨hnone.1, h.featuresChecked_of_ok hnone.1, hnone.2⟩⟩

/-- **The exit code is zero exactly if all is as the checklist says.** -/
theorem Describes.exitCode_eq_zero_iff_markers (h : r.Describes disk c base) :
    r.exitCode = 0 ↔ (∀ f ∈ r.files, f.status = .ok)
      ∧ ∃ primary ∈ r.files, primary.path = c.primaryFile
        ∧ ∃ text, primary.content = some text ∧ ∀ f ∈ c.features, f.marker.toList <:+: text := by
  rw [h.exitCode_eq_zero_iff_counts, counts_eq_zero_iff, missingFeatures_eq_nil_iff]
  refine and_congr_right fun hok => ?_
  obtain ⟨file, hfile, hunique, _, hfeatures⟩ := h.exists_primary
  obtain ⟨text, _, _, hcontent, _⟩ := (h.outcome file hfile).of_read (.inl (hok file hfile))
  obtain ⟨hnames, hpresent⟩ := hfeatures _ hcontent
  constructor
  · intro hall
    refine ⟨file, hfile, (hunique file hfile).2 rfl, _, hcontent, fun f hf => ?_⟩
    rw [← hnames] at hf
    obtain ⟨g, hg, rfl⟩ := List.mem_map.1 hf
    exact (hpresent g hg).1 (hall g hg)
  · rintro ⟨f, hf, hpath, text', htext, hmarkers⟩ g hg
    obtain rfl := (hunique f hf).1 hpath
    obtain rfl := Option.some.inj (hcontent.symm.trans htext)
    exact (hpresent g hg).2 (hmarkers g.1 (hnames ▸ List.mem_map_of_mem hg))

/-! ## The banner -/

theorem intercalate_concat (separator last : String) {words : List String} (h : words ≠ []) :
    separator.intercalate (words ++ [last]) = separator.intercalate words ++ separator ++ last := by
  induction words with
  | nil => exact absurd rfl h
  | cons w words ih =>
      cases words with
      | nil =>
          rw [List.singleton_append, String.intercalate_cons_cons, String.intercalate_singleton,
            String.intercalate_singleton]
      | cons v words =>
          rw [List.cons_append, List.cons_append, String.intercalate_cons_cons,
            String.intercalate_cons_cons, ← List.cons_append, ih (List.cons_ne_nil _ _)]
          simp only [String.append_assoc]

/-- A summary that names a kind first goes on with a comma. -/
theorem summary_eq {r : Result} {first : String × Nat} {rest : List (String × Nat)}
    (h : r.counts.filter (·.2 ≠ 0) = first :: rest) :
    Report.summary r = ", ".intercalate
      ((first :: rest).map (fun kind => s!"{kind.2} {kind.1}") ++
        if r.featuresChecked then [] else ["feature checks skipped"]) := by
  rw [Report.summary, h]
  cases r.featuresChecked with
  | true => simp
  | false =>
      rw [if_neg Bool.false_ne_true, if_neg Bool.false_ne_true,
        intercalate_concat _ _ (by simp), String.append_assoc]
      rfl

end Describes

end Result

open Result in
/-- **Exit code, numbers and banner of a run agree.** -/
theorem run_agrees {disk : Disk} {c : Checklist} {base : Path} {result : Result}
    {notes : List Note} (h : run disk c base = .ok (result, notes)) : result.Agrees c := by
  obtain ⟨_, heq⟩ := (run_eq_ok_iff disk c base _).1 h
  have hdescribes : result.Describes disk c base := by
    rw [show result = (told disk c base).1 from congrArg Prod.fst heq]
    exact told_describes disk c base
  refine ⟨hdescribes.paths, ?_, hdescribes.exitCode_eq_zero_iff_markers,
    hdescribes.exitCode_eq_zero_iff_counts, hdescribes.skipped, ?_, fun hfailed => ?_⟩
  · rw [exitCode]
    split <;> decide
  · simp only [length_pathsWith]
    rw [sum_statuses, ← hdescribes.paths, List.length_map]
  · have hbad : result.allGood = false := by
      rw [exitCode] at hfailed
      split at hfailed
      · cases hfailed
      · simp_all
    have hsome : result.counts.filter (·.2 ≠ 0) ≠ [] := by
      intro hnil
      have hzero : result.exitCode = 0 := by
        rw [hdescribes.exitCode_eq_zero_iff_counts]
        simpa [List.filter_eq_nil_iff] using hnil
      rw [hzero] at hfailed
      cases hfailed
    obtain ⟨first, rest, hfilter⟩ := List.exists_cons_of_ne_nil hsome
    refine ⟨first, rest, if result.featuresChecked then [] else ["feature checks skipped"],
      hfilter, ?_, fun colours lines hlines => ?_⟩
    · rw [← hdescribes.featuresChecked_eq_false_iff]
      cases result.featuresChecked with
      | true => exact .inr ⟨Bool.false_ne_true.symm, rfl⟩
      | false => exact .inl ⟨rfl, rfl⟩
    · obtain ⟨above, shown, rfl, hshown⟩ := Report.exists_lines_banner hlines
      rw [Report.print_failure colours hbad] at hshown
      cases hshown
      rw [List.getLast?_concat, Report.failure_eq, summary_eq hfilter]

/-- One of the two files is missing. -/
theorem twoFiles_agrees : ∃ result notes,
    run oneFile twoFiles ⟨0, []⟩ = .ok (result, notes) ∧ result.exitCode = 1
      ∧ result.Agrees twoFiles := by
  have hrun := (run_eq_ok_iff oneFile twoFiles ⟨0, []⟩ _).2 ⟨twoFiles_free, rfl⟩
  exact ⟨_, _, hrun, by decide +kernel, run_agrees hrun⟩

end PackageGate
