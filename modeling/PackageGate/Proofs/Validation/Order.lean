import Mathlib.Data.List.Perm.Basic
import PackageGate.Proofs.Validation.Run

/-!
# The order of a checklist does not matter

A checklist with its files and features in another order is a checklist, too, and a run of it tells
the same outcomes in that order (`run_arranged`). An outcome depends on its own entry only, and the
primary file is found by its path, wherever it stands. The numbers and the exit code do not depend
on the order of what they count.

An order is a list of positions. It takes each of them once if it is a permutation of all of them.
-/

namespace PackageGate

open Disk (Path)

/-! ## Orders -/

/-- The items of a list in another order. -/
def arrange {α : Type} (order : List Nat) (l : List α) : List α := order.filterMap (l[·]?)

theorem arrange_range {α : Type} (l : List α) : arrange (List.range l.length) l = l := by
  induction l with
  | nil => rfl
  | cons x l ih =>
      rw [arrange, List.length_cons, List.range_succ_eq_map, List.filterMap_cons_some (by rfl),
        List.filterMap_map]
      exact congrArg (x :: ·) ih

/-- An order that takes each position once leaves nothing out. -/
theorem arrange_perm {α : Type} {order : List Nat} {l : List α}
    (h : order.Perm (List.range l.length)) : (arrange order l).Perm l := by
  have hperm : (arrange order l).Perm (arrange (List.range l.length) l) := h.filterMap _
  rwa [arrange_range] at hperm

theorem arrange_map {α β : Type} (order : List Nat) (f : α → β) (l : List α) :
    arrange order (l.map f) = (arrange order l).map f := by
  rw [arrange, arrange, List.map_filterMap]
  exact List.filterMap_congr fun n _ => List.getElem?_map

theorem arrange_nil {α : Type} (order : List Nat) : arrange order ([] : List α) = [] := by
  simp [arrange]

/-! ## Results -/

namespace Result

/-- The numbers do not depend on the order. -/
theorem counts_eq_of_perm {r r' : Result} (hfiles : r'.files.Perm r.files)
    (hfeatures : r'.features.Perm r.features) : r'.counts = r.counts := by
  have hpaths (s : Status) : (r'.pathsWith s).length = (r.pathsWith s).length :=
    ((hfiles.filter _).map _).length_eq
  have hmissing : r'.missingFeatures.length = r.missingFeatures.length :=
    ((hfeatures.filter _).map _).length_eq
  simp only [counts, hpaths, hmissing]

/-- Neither does the exit code. -/
theorem exitCode_eq_of_perm {r r' : Result} (hfiles : r'.files.Perm r.files)
    (hfeatures : r'.features.Perm r.features) (hchecked : r'.featuresChecked = r.featuresChecked) :
    r'.exitCode = r.exitCode := by
  have hmissing : r'.missingFeatures.isEmpty = r.missingFeatures.isEmpty :=
    ((hfeatures.filter _).map _).isEmpty_eq
  have hgood : r'.allGood = r.allGood := by
    rw [allGood, allGood, hfiles.all_eq, hchecked, hmissing]
  rw [exitCode, exitCode, hgood]

/-- One result is another with its files and features in another order. -/
structure Arranges (files features : List Nat) (r r' : Result) : Prop where
  files : r'.files = arrange files r.files
  features : r'.features = arrange features r.features
  featuresChecked : r'.featuresChecked = r.featuresChecked
  /-- There are no features if they are not checked, in whatever order. -/
  skipped : r.featuresChecked = false → r.features = [] ∧ r'.features = []
  counts : r'.counts = r.counts
  exitCode : r'.exitCode = r.exitCode

end Result

/-! ## Checklists -/

/-- A draft with its files and features in another order. -/
def Draft.arranged (d : Draft) (files features : List Nat) : Draft :=
  { d with manifest := arrange files d.manifest, features := arrange features d.features }

/-- A checklist in another order is a checklist. -/
theorem Checklist.exists_arranged (c : Checklist) {files : List Nat} (features : List Nat)
    (hfiles : files.Perm (List.range c.manifest.length)) :
    ∃ c' : Checklist, (c.toDraft.arranged files features).check = .ok c'
      ∧ c'.toDraft = c.toDraft.arranged files features := by
  have hperm : (arrange files c.manifest).Perm c.manifest := arrange_perm hfiles
  have hnone : (c.toDraft.arranged files features).problems = [] := by
    rw [Draft.problems_eq_nil_iff]
    refine ⟨?_, hperm.nodup_iff.2 c.manifest_nodup, hperm.mem_iff.2 c.primaryFile_mem⟩
    intro hnil
    exact c.manifest_ne_nil (List.nil_perm.1 (hnil ▸ hperm))
  rw [Draft.check, dif_pos hnone]
  exact ⟨_, rfl, rfl⟩

/-! ## Runs -/

/-- The features are looked for in the same text, in whatever order. -/
theorem checkFeatures_arrange {order : List Nat} {features : List Feature}
    (h : order.Perm (List.range features.length)) (file : FileResult) :
    ∃ pairs checked notes, checkFeatures features (some file) = (pairs, checked, notes)
      ∧ checkFeatures (arrange order features) (some file) = (arrange order pairs, checked, notes)
      ∧ (arrange order pairs).Perm pairs ∧ (checked = false → pairs = []) := by
  cases hcontent : file.content with
  | none =>
      refine ⟨[], false, _, by rw [checkFeatures, hcontent], ?_, by simp [arrange_nil], by simp⟩
      rw [checkFeatures, hcontent, arrange_nil]
  | some text =>
      refine ⟨Source.presence text features, true, [], by rw [checkFeatures, hcontent], ?_, ?_,
        by simp⟩
      · simp only [checkFeatures, hcontent, Source.presence, arrange_map]
      · exact arrange_perm (by rwa [Source.presence, List.length_map])

theorem told_eq {disk : Disk} {c : Checklist} {base : Path} {pairs : List (Feature × Bool)}
    {checked : Bool} {notes : List Note}
    (h : checkFeatures c.features (some (primaryOf disk c base)) = (pairs, checked, notes)) :
    (told disk c base).1 =
      ⟨c, c.manifest.map fun e => (outcomeAt disk base c.rules e).1, pairs, checked⟩ := by
  rw [← files_told, told, h]

/-- An entry that ends the run ends it without a result. -/
theorem run_eq_error {disk : Disk} {c : Checklist} {base : Path}
    (h : ¬∀ e ∈ c.manifest, ¬Blocks disk base e) : run disk c base = .error ⟨⟩ := by
  cases hrun : run disk c base with
  | error n => rfl
  | ok outcome => exact absurd ((run_eq_ok_iff disk c base outcome).1 hrun).1 h

/-- What a run tells of a checklist in another order. -/
theorem told_arranged {c c' : Checklist} {files features : List Nat} (disk : Disk) (base : Path)
    (hfiles : files.Perm (List.range c.manifest.length))
    (hfeatures : features.Perm (List.range c.features.length))
    (hc : c'.toDraft = c.toDraft.arranged files features) :
    (told disk c base).1.Arranges files features (told disk c' base).1 := by
  have hrules : c'.rules = c.rules := by rw [hc]; rfl
  have hmanifest : c'.manifest = arrange files c.manifest := by rw [hc]; rfl
  have hlist : c'.features = arrange features c.features := by rw [hc]; rfl
  -- the primary file is the same, wherever it stands
  have hprimary : primaryOf disk c' base = primaryOf disk c base := by
    rw [primaryOf, primaryOf, hrules, show c'.primaryFile = c.primaryFile by rw [hc]; rfl]
  obtain ⟨pairs, checked, notes, hchecked, hchecked', hperm, hskipped⟩ :=
    checkFeatures_arrange hfeatures (primaryOf disk c base)
  rw [← hlist, ← hprimary] at hchecked'
  have hresults : (arrange files c.manifest).map (fun e => (outcomeAt disk base c.rules e).1) =
      arrange files (c.manifest.map fun e => (outcomeAt disk base c.rules e).1) :=
    (arrange_map _ _ _).symm
  have hpermuted : ((arrange files c.manifest).map fun e => (outcomeAt disk base c.rules e).1).Perm
      (c.manifest.map fun e => (outcomeAt disk base c.rules e).1) :=
    (arrange_perm hfiles).map _
  rw [told_eq hchecked, told_eq hchecked', hrules, hmanifest]
  refine ⟨hresults, rfl, rfl, fun hfalse => ?_, Result.counts_eq_of_perm hpermuted hperm,
    Result.exitCode_eq_of_perm hpermuted hperm rfl⟩
  have hnone := hskipped hfalse
  exact ⟨hnone, by rw [hnone, arrange_nil]⟩

/-- **A run of a checklist in another order tells the same in that order.** Either of both runs ends
with a result if the other does. -/
theorem run_arranged (c : Checklist) {files features : List Nat}
    (hfiles : files.Perm (List.range c.manifest.length))
    (hfeatures : features.Perm (List.range c.features.length)) :
    ∃ c' : Checklist, (c.toDraft.arranged files features).check = .ok c'
      ∧ c'.toDraft = c.toDraft.arranged files features
      ∧ ∀ disk base,
        run disk c base = .error ⟨⟩ ∧ run disk c' base = .error ⟨⟩
        ∨ ∃ r notes r' notes', run disk c base = .ok (r, notes)
          ∧ run disk c' base = .ok (r', notes') ∧ r.Arranges files features r' := by
  obtain ⟨c', hcheck, hc⟩ := c.exists_arranged features hfiles
  refine ⟨c', hcheck, hc, fun disk base => ?_⟩
  have hmem : ∀ e, e ∈ c'.manifest ↔ e ∈ c.manifest := by
    rw [hc]
    exact fun e => (arrange_perm hfiles).mem_iff
  by_cases hfree : ∀ e ∈ c.manifest, ¬Blocks disk base e
  · refine .inr ⟨_, _, _, _, (run_eq_ok_iff disk c base _).2 ⟨hfree, rfl⟩,
      (run_eq_ok_iff disk c' base _).2 ⟨fun e he => hfree e ((hmem e).1 he), rfl⟩,
      told_arranged disk base hfiles hfeatures hc⟩
  · refine .inl ⟨run_eq_error hfree, run_eq_error fun hfree' => hfree fun e he => ?_⟩
    exact hfree' e ((hmem e).2 he)

/-- The two files the other way round. -/
theorem twoFiles_arranged : ∃ c', (twoFiles.toDraft.arranged [1, 0] [0]).check = .ok c'
    ∧ c'.manifest = ["B.cs", "A.cs"]
    ∧ ∃ r notes r' notes', run oneFile twoFiles ⟨0, []⟩ = .ok (r, notes)
      ∧ run oneFile c' ⟨0, []⟩ = .ok (r', notes') ∧ r'.files = r.files.reverse
      ∧ r.Arranges [1, 0] [0] r' := by
  obtain ⟨c', hcheck, hc, hruns⟩ := run_arranged twoFiles
    (show [1, 0].Perm (List.range 2) by decide) (show [0].Perm (List.range 1) by decide)
  have hrun := (run_eq_ok_iff oneFile twoFiles ⟨0, []⟩ _).2 ⟨twoFiles_free, rfl⟩
  obtain ⟨hno, _⟩ | ⟨r, notes, r', notes', hr, hr', harranges⟩ := hruns oneFile ⟨0, []⟩
  · rw [hrun] at hno
    cases hno
  · refine ⟨c', hcheck, by rw [hc]; rfl, r, notes, r', notes', hr, hr', ?_, harranges⟩
    rw [hrun] at hr
    cases hr
    exact harranges.files

end PackageGate
