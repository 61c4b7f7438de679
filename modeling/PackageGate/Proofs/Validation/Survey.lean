import PackageGate.Disk.Assembled
import PackageGate.Proofs.Validation.Run
import PackageGate.Validation.Survey

/-!
# Surveys and runs

A survey goes on to its end exactly if it is refused no entry, and then each entry has a finding of
its own (`survey_eq_ok_iff`). The entries of a checklist are texts, which all have bytes, so that
only null characters are refused there: a run of the checklist is the survey of its plan
(`run_eq_survey`).
-/

namespace PackageGate

open Disk (Path NullInPath)
open Text (CodePoint)

/-! ## Null characters -/

/-- A character that separates nothing is in one of the pieces if it is in the text. -/
theorem exists_mem_splitAt_iff {separator c : Char} (h : c ≠ separator) (text : List Char) :
    (∃ piece ∈ Text.splitAt separator text, c ∈ piece) ↔ c ∈ text := by
  induction text with
  | nil => simp [Text.splitAt]
  | cons d text ih =>
      rw [Text.splitAt]
      cases hsplit : Text.splitAt separator text with
      | nil => exact absurd hsplit (Text.splitAt_ne_nil separator text)
      | cons piece more =>
          rw [hsplit] at ih
          dsimp only
          by_cases hd : d = separator
          · rw [if_pos hd, List.mem_cons, ← ih]
            have hcd : c ≠ d := fun hcd => h (hcd.trans hd)
            simp [hcd]
          · rw [if_neg hd, List.mem_cons, ← ih]
            simp [or_assoc]

theorem hasNull_ofString_iff (entry : String) :
    (Path.ofString entry).hasNull = true ↔ '\x00' ∈ entry.toList := by
  rw [← exists_mem_splitAt_iff (show '\x00' ≠ '/' by decide)]
  simp only [Path.hasNull, Path.ofString, Disk.rawSteps, List.any_filter, List.any_map,
    List.any_eq_true, Function.comp, Bool.and_eq_true, List.contains_iff_mem, String.toList_ofList]
  constructor
  · rintro ⟨piece, hpiece, _, hnull⟩
    exact ⟨piece, hpiece, hnull⟩
  · rintro ⟨piece, hpiece, hnull⟩
    refine ⟨piece, hpiece, ?_, hnull⟩
    -- a step that is left out holds no null character
    have hne : ∀ text : String, '\x00' ∉ text.toList → String.ofList piece ≠ text := by
      rintro text htext rfl
      exact htext (by rwa [String.toList_ofList])
    simp [Disk.isStep, hne "" (by decide), hne "." (by decide)]

theorem hasNull_pathOf_iff {base : Path} (hbase : base.hasNull = false) (entry : String) :
    (pathOf base entry).hasNull = true ↔ '\x00' ∈ entry.toList := by
  rw [← hasNull_ofString_iff, pathOf, Path.join]
  split
  · rfl
  · rw [Path.hasNull] at hbase
    rw [Path.hasNull, List.any_append, hbase, Bool.false_or]
    rfl

theorem blocks_iff {base : Path} (hbase : base.hasNull = false) (disk : Disk) (entry : String) :
    Blocks disk base entry ↔
      '\x00' ∈ entry.toList ∧ disk.intercepts .stat (pathOf base entry) = false := by
  rw [Blocks, hasNull_pathOf_iff hbase]

/-- A path without null characters in its steps is written without them. -/
theorem null_not_mem_toString {path : Path} (h : path.hasNull = false) :
    '\x00' ∉ path.toString.toList := by
  have hstep : ∀ step ∈ path.steps, step.toList.all (· ≠ '\x00') = true := by
    intro step hmem
    have hnull : step.toList.contains '\x00' = false := by
      simpa using List.any_eq_false.1 h step hmem
    rw [List.all_eq_true]
    intro c hc
    rw [decide_eq_true_eq]
    rintro rfl
    rw [List.contains_iff_mem.2 hc] at hnull
    cases hnull
  have hsteps := Text.all_intercalate (show "/".toList.all (· ≠ '\x00') = true by decide) hstep
  rw [Path.toString]
  split
  · decide
  · rw [String.toList_append, String.toList_ofList, List.mem_append]
    rintro (hslash | hmem)
    · cases List.eq_of_mem_replicate hslash
    · exact absurd rfl (of_decide_eq_true (List.all_eq_true.1 hsteps _ hmem))

/-! ## Refused paths -/

theorem refusal_ne_none_iff (path : Points) :
    Refusal.of? path ≠ none ↔
      (∃ point ∈ path, point.isEncodable = false) ∨ .char '\x00' ∈ path := by
  have hall : (path.all (·.isEncodable)) = false ↔ ∃ point ∈ path, point.isEncodable = false := by
    simp
  rw [← hall, ← List.contains_iff_mem, Refusal.of?]
  cases path.all (·.isEncodable) with
  | false => simp
  | true => cases path.contains (.char '\x00') <;> simp

namespace Outlook

variable {φ : Type} {o : Outlook} {plan : Plan φ} {entry : Points}

/-- The path of an entry is refused, and no failure is in place of looking at it. -/
def Refuses (o : Outlook) (entry : Points) : Prop :=
  Refusal.of? (o.pathOf entry) ≠ none ∧ o.injected entry = none

/-- Below a base directory without null characters, only those of the entry count. -/
theorem null_mem_pathOf_iff (hbase : .char '\x00' ∉ o.base) :
    .char '\x00' ∈ o.pathOf entry ↔ .char '\x00' ∈ entry := by
  rw [pathOf]
  split
  · rfl
  · simp [hbase]

theorem check_of_refuses (h : o.Refuses entry) (defectsIn : List Char → List String) :
    ∃ refusal, o.check defectsIn entry = .error refusal := by
  obtain ⟨hpath, hinjected⟩ := h
  obtain ⟨refusal, hrefusal⟩ := Option.ne_none_iff_exists'.1 hpath
  exact ⟨refusal, by rw [check, hrefusal, hinjected]⟩

theorem check_of_not_refuses (h : ¬o.Refuses entry) (defectsIn : List Char → List String) :
    o.check defectsIn entry = .ok (entry, o.find defectsIn entry) := by
  rw [check]
  split
  · rename_i refusal hpath hinjected
    exact absurd ⟨by simp [hpath], hinjected⟩ h
  · rfl

/-- What a survey comes to if it is refused no entry. -/
def surveyed (o : Outlook) (plan : Plan φ) : Survey φ where
  files := plan.entries.map fun entry => (entry, o.find plan.defectsIn entry)
  features := (o.find plan.defectsIn plan.primary).text?.map plan.featuresIn

theorem mapM_check_eq_ok_iff (o : Outlook) (defectsIn : List Char → List String)
    (entries : List Points) (files : List (Points × Finding)) :
    entries.mapM (o.check defectsIn) = .ok files ↔
      (∀ entry ∈ entries, ¬o.Refuses entry)
        ∧ files = entries.map fun entry => (entry, o.find defectsIn entry) :=
  mapM_eq_ok_iff (fun _ h => check_of_refuses h defectsIn)
    (fun _ h => check_of_not_refuses h defectsIn) entries files

/-- **A survey ends with findings exactly if no entry is refused, and then with those at each
entry.** -/
theorem survey_eq_ok_iff (o : Outlook) (plan : Plan φ) (found : Survey φ) :
    o.survey plan = .ok found ↔
      (∀ entry ∈ plan.entries, ¬o.Refuses entry) ∧ found = o.surveyed plan := by
  -- the finding at the primary entry is found by the entry
  have hprimary : (plan.entries.map fun entry => (entry, o.find plan.defectsIn entry)).find?
      (·.1 = plan.primary) = some (plan.primary, o.find plan.defectsIn plan.primary) :=
    find?_map_of_mem (fun _ => rfl) plan.primary_mem
  rw [survey, bind_eq_ok_iff]
  constructor
  · rintro ⟨files, hmap, hfound⟩
    obtain ⟨hfree, rfl⟩ := (mapM_check_eq_ok_iff _ _ _ _).1 hmap
    rw [hprimary] at hfound
    exact ⟨hfree, (Except.ok.inj hfound).symm⟩
  · rintro ⟨hfree, rfl⟩
    refine ⟨_, (mapM_check_eq_ok_iff _ _ _ _).2 ⟨hfree, rfl⟩, ?_⟩
    rw [hprimary]
    rfl

end Outlook

/-! ## Checklists -/

section Checklist

variable {disk : Disk} {base : Path}

/-- Whatever answers in place of the operating system fails. -/
def Disk.InjectsFailures (disk : Disk) : Prop :=
  ∀ path, disk.intercepts .stat path = true → ∃ failure, disk.stat path = .error failure

/-- On the disk of a tree with faults, these are the faults. -/
theorem injectsFailures_assemble (top : Disk.Node) (cwd : Disk.Place) (faults : List Disk.Fault) :
    (Disk.assemble top cwd faults).InjectsFailures := by
  intro path h
  obtain ⟨failure, hfailure⟩ := Option.isSome_iff_exists.1 h
  exact ⟨failure, by simp [Disk.assemble, hfailure]⟩

theorem pathOf_shown (base : Path) (entry : String) :
    base.join (Path.ofString (Points.ofString entry).shown) = PackageGate.pathOf base entry := by
  rw [Points.shown_ofString, PackageGate.pathOf]

/-- A failure that is injected is the disk's own answer. -/
theorem look_ofString (disk : Disk) (base : Path) (entry : String) :
    (disk.outlook base).look (.ofString entry) = disk.stat (pathOf base entry) := by
  rw [Outlook.look, Disk.outlook]
  dsimp only
  rw [pathOf_shown]
  cases disk.intercepts .stat (pathOf base entry) with
  | false => rfl
  | true => cases disk.stat (pathOf base entry) <;> rfl

theorem find_ofString (disk : Disk) (base : Path) (rules : Rules) (entry : String) :
    ((disk.outlook base).find (Source.defectMessages rules) (.ofString entry)).result entry =
      (outcomeAt disk base rules entry).1 := by
  have hthere (path : Path) :
      Source.isThere ((disk.outlook base).answering (.ofString entry)) path =
        Source.isThere disk (pathOf base entry) := by
    rw [Source.isThere, Source.isThere, ← look_ofString]
    rfl
  have hread (path : Path) :
      Source.read ((disk.outlook base).answering (.ofString entry)) path =
        Source.read disk (pathOf base entry) := by
    rw [Source.read, Source.read, ← pathOf_shown]
    rfl
  rw [Outlook.find, hthere, hread, outcomeAt, examine]
  cases Source.isThere disk (pathOf base entry) with
  | error problem => rfl
  | ok there =>
      cases there with
      | false => rfl
      | true => cases Source.read disk (pathOf base entry) <;> rfl

theorem content_result (entry : String) (finding : Finding) :
    (finding.result entry).content = finding.text? := by
  cases finding <;> rfl

theorem isEncodable_of_mem_pathOf {point : CodePoint} {entry : String}
    (h : point ∈ (disk.outlook base).pathOf (.ofString entry)) : point.isEncodable = true := by
  rw [Outlook.pathOf] at h
  split at h
  · exact Points.isEncodable_of_mem_ofString h
  · rcases List.mem_append.1 h with h | h
    · exact Points.isEncodable_of_mem_ofString h
    · rcases List.mem_cons.1 h with rfl | h
      · rfl
      · exact Points.isEncodable_of_mem_ofString h

theorem injected_eq_none_iff (hinjects : disk.InjectsFailures) (entry : String) :
    (disk.outlook base).injected (.ofString entry) = none ↔
      disk.intercepts .stat (pathOf base entry) = false := by
  rw [Disk.outlook]
  dsimp only
  rw [pathOf_shown]
  cases hint : disk.intercepts .stat (pathOf base entry) with
  | false => simp
  | true =>
      obtain ⟨failure, hfailure⟩ := hinjects _ hint
      simp [hfailure]

/-- Only null characters are refused in an entry that is a text. -/
theorem refuses_ofString_iff (hinjects : disk.InjectsFailures) (hbase : base.hasNull = false)
    (entry : String) : (disk.outlook base).Refuses (.ofString entry) ↔ Blocks disk base entry := by
  have hfree : .char '\x00' ∉ (disk.outlook base).base := by
    show .char '\x00' ∉ Points.ofString base.toString
    rw [Points.char_mem_ofString_iff]
    exact null_not_mem_toString hbase
  have hencodable : ¬∃ point ∈ (disk.outlook base).pathOf (.ofString entry),
      point.isEncodable = false := by
    rintro ⟨point, hpoint, hno⟩
    rw [isEncodable_of_mem_pathOf hpoint] at hno
    cases hno
  rw [Outlook.Refuses, refusal_ne_none_iff, or_iff_right hencodable,
    Outlook.null_mem_pathOf_iff hfree, Points.char_mem_ofString_iff, injected_eq_none_iff hinjects,
    blocks_iff hbase]

theorem result_surveyed (disk : Disk) (c : Checklist) (base : Path) :
    ((disk.outlook base).surveyed c.plan).result c = (told disk c base).1 := by
  have hfiles : ((disk.outlook base).surveyed c.plan).files.map
      (fun file => file.2.result file.1.shown) = (told disk c base).1.files := by
    rw [files_told, Outlook.surveyed, Checklist.plan, List.map_map, List.map_map]
    refine List.map_congr_left fun entry _ => ?_
    show Finding.result (Points.ofString entry).shown _ = _
    rw [Points.shown_ofString]
    exact find_ofString disk base c.rules entry
  have hprimary : ((disk.outlook base).surveyed c.plan).features =
      (primaryOf disk c base).content.map fun text => Source.presence text c.features := by
    rw [primaryOf, ← find_ofString, content_result]
    rfl
  rw [Survey.result, hfiles, hprimary, told]
  cases hcontent : (primaryOf disk c base).content <;> simp [checkFeatures, hcontent]

/-- Two runs are the same if they succeed alike, since there is one way to fail. -/
theorem eq_of_ok_iff {α : Type} {x y : Except NullInPath α} (h : ∀ a, x = .ok a ↔ y = .ok a) :
    x = y := by
  cases x with
  | ok a => exact ((h a).1 rfl).symm
  | error e =>
      cases y with
      | ok a => exact (h a).2 rfl
      | error e' => rfl

/-- **A run is the survey of its plan.** -/
theorem run_eq_survey (hinjects : disk.InjectsFailures) (hbase : base.hasNull = false)
    (c : Checklist) :
    (run disk c base).map (·.1) =
      (((disk.outlook base).survey c.plan).map (·.result c)).mapError fun _ => ⟨⟩ := by
  have hfree : (∀ entry ∈ c.plan.entries, ¬(disk.outlook base).Refuses entry) ↔
      ∀ e ∈ c.manifest, ¬Blocks disk base e := by
    rw [Checklist.plan]
    simp only [List.forall_mem_map, refuses_ofString_iff hinjects hbase]
  refine eq_of_ok_iff fun result => ?_
  simp only [mapError_eq_ok_iff, map_eq_ok_iff, run_eq_ok_iff, Outlook.survey_eq_ok_iff, hfree]
  constructor
  · rintro ⟨_, ⟨hc, rfl⟩, rfl⟩
    exact ⟨_, ⟨hc, rfl⟩, result_surveyed disk c base⟩
  · rintro ⟨_, ⟨hc, rfl⟩, rfl⟩
    exact ⟨_, ⟨hc, rfl⟩, (result_surveyed disk c base).symm⟩

end Checklist

end PackageGate
