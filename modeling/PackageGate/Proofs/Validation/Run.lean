import PackageGate.Proofs.Outcome
import PackageGate.Validation.Run

/-!
# What a run tells

A run looks at each entry of the manifest by itself: the outcomes are those of `outcomeAt`, one for
each entry, in order (`run_eq_ok_iff`). What an outcome says about its file is `Outcome`, and what a
result says about the disk that was looked at is `Result.Describes`.
-/

namespace PackageGate

open Disk (Path Failure NullInPath)

/-! ## One file -/

/-- The path at which the file of an entry is looked for. -/
def pathOf (base : Path) (entry : String) : Path := base.join (Path.ofString entry)

/-- The file at a path can be read, and its bytes are those of a text. -/
def ReadsAs (disk : Disk) (path : Path) (text : List Char) : Prop :=
  ∃ bytes, disk.read path = .ok bytes ∧ Text.Utf8.decode bytes = .ok text

/-- What an outcome says about the file at a path. -/
structure Outcome (disk : Disk) (rules : Rules) (path : Path) (r : FileResult) : Prop where
  /-- A file is missing if nothing is at its path, or a file in the place of a directory. -/
  missing_iff : r.status = .missing ↔
    disk.stat path = .error (.code .notFound) ∨ disk.stat path = .error (.code .notDirectory)
  /-- A file is unreadable if it cannot be looked at for another reason, or if it is there and
  cannot be read or is no text. -/
  unreadable_iff : r.status = .unreadable ↔
    (∃ f, disk.stat path = .error f ∧ f ≠ .code .notFound ∧ f ≠ .code .notDirectory)
      ∨ disk.stat path = .ok () ∧ ∀ text, ¬ReadsAs disk path text
  of_missing : r.status = .missing → r.defects = [] ∧ r.content = none
  of_unreadable : r.status = .unreadable →
    r.content = none ∧ ∃ reason, r.defects = ["Failed to read file: " ++ reason]
  /-- Any other file was read, and its defects are those of its text. -/
  of_read : r.status = .ok ∨ r.status = .defects →
    ∃ text, disk.stat path = .ok () ∧ ReadsAs disk path text
      ∧ r.content = some (Text.unifyNewlines text)
      ∧ r.defects = Source.defectMessages rules (Text.unifyNewlines text)
      ∧ (r.status = .ok ↔ r.defects = [])

theorem isAbsence_iff (f : Failure) :
    f.isAbsence = true ↔ f = .code .notFound ∨ f = .code .notDirectory := by
  cases f with
  | code c => simp [Failure.isAbsence, Disk.Code.isAbsence]
  | worded m => simp [Failure.isAbsence]

theorem isThere_of_error {disk : Disk} {path : Path} {f : Failure} (h : disk.stat path = .error f) :
    Source.isThere disk path =
      if f.isAbsence then .ok false else .error (.ofFailure f) := by
  rw [Source.isThere, h]

theorem isThere_of_ok {disk : Disk} {path : Path} (h : disk.stat path = .ok ()) :
    Source.isThere disk path = .ok true := by
  rw [Source.isThere, h]

/-- An entry that is absent. -/
theorem outcome_absent {disk : Disk} {path : Path} {f : Failure} (rules : Rules) (entry : String)
    (h : disk.stat path = .error f) (hf : f = .code .notFound ∨ f = .code .notDirectory) :
    Outcome disk rules path (.absent entry) where
  missing_iff := by
    rw [h]
    rcases hf with rfl | rfl <;> simp [FileResult.absent]
  unreadable_iff := by
    rw [h]
    rcases hf with rfl | rfl <;> simp [FileResult.absent]
  of_missing _ := ⟨rfl, rfl⟩
  of_unreadable hs := by cases hs
  of_read hs := by rcases hs with hs | hs <;> cases hs

/-- An entry that cannot be read. -/
theorem outcome_problem {disk : Disk} {path : Path} (rules : Rules) (entry : String)
    (problem : Source.ReadProblem)
    (h : (∃ f, disk.stat path = .error f ∧ f ≠ .code .notFound ∧ f ≠ .code .notDirectory)
      ∨ disk.stat path = .ok () ∧ ∀ text, ¬ReadsAs disk path text) :
    Outcome disk rules path (.ofProblem entry problem) where
  missing_iff := by
    refine ⟨fun hs => (by cases hs), fun hs => ?_⟩
    exfalso
    rcases h with ⟨f, hf, hfound, hdir⟩ | ⟨hok, _⟩
    · rw [hf] at hs
      rcases hs with hs | hs
      · exact hfound (Except.error.inj hs)
      · exact hdir (Except.error.inj hs)
    · rw [hok] at hs
      rcases hs with hs | hs <;> cases hs
  unreadable_iff := ⟨fun _ => h, fun _ => rfl⟩
  of_missing hs := by cases hs
  of_unreadable _ := ⟨rfl, problem.message, rfl⟩
  of_read hs := by rcases hs with hs | hs <;> cases hs

/-- An entry whose text was read. -/
theorem outcome_text {disk : Disk} {path : Path} {text : List Char} (rules : Rules)
    (entry : String) (hstat : disk.stat path = .ok ()) (hread : ReadsAs disk path text) :
    Outcome disk rules path (.ofText rules entry (Text.unifyNewlines text)) := by
  have hstatus : (FileResult.ofText rules entry (Text.unifyNewlines text)).status ≠ .missing
      ∧ (FileResult.ofText rules entry (Text.unifyNewlines text)).status ≠ .unreadable := by
    simp only [FileResult.ofText]
    split <;> simp
  refine ⟨⟨fun hs => absurd hs hstatus.1, fun hs => ?_⟩, ⟨fun hs => absurd hs hstatus.2,
    fun hs => ?_⟩, fun hs => absurd hs hstatus.1, fun hs => absurd hs hstatus.2, fun _ => ?_⟩
  · rw [hstat] at hs
    rcases hs with hs | hs <;> cases hs
  · exfalso
    rcases hs with ⟨f, hf, _⟩ | ⟨_, hs⟩
    · rw [hstat] at hf
      cases hf
    · exact hs text hread
  · refine ⟨text, hstat, hread, rfl, rfl, ?_⟩
    simp only [FileResult.ofText, List.isEmpty_iff]
    split
    · rename_i hnil
      exact ⟨fun _ => hnil, fun _ => rfl⟩
    · rename_i hne
      exact ⟨fun hs => (by cases hs), fun hnil => absurd hnil hne⟩

/-- **Looking at a file tells its outcome.** -/
theorem examine_outcome (disk : Disk) (rules : Rules) (entry : String) (path : Path) :
    Outcome disk rules path (examine disk rules entry path).1 := by
  unfold examine
  cases hstat : disk.stat path with
  | error f =>
      rw [isThere_of_error hstat]
      by_cases hf : f.isAbsence = true
      · rw [if_pos hf]
        exact outcome_absent rules entry hstat ((isAbsence_iff f).1 hf)
      · rw [if_neg hf]
        rw [isAbsence_iff, not_or] at hf
        exact outcome_problem rules entry _ (.inl ⟨f, hstat, hf⟩)
  | ok u =>
      rw [isThere_of_ok hstat]
      dsimp only
      cases hread : disk.read path with
      | error f =>
          rw [Source.read, hread]
          refine outcome_problem rules entry _ (.inr ⟨hstat, ?_⟩)
          rintro text ⟨bytes, hbytes, _⟩
          rw [hread] at hbytes
          cases hbytes
      | ok bytes =>
          rw [Source.read, hread]
          cases htext : Text.Utf8.decode bytes with
          | error flaw =>
              simp only [Source.textOf, htext]
              refine outcome_problem rules entry _ (.inr ⟨hstat, ?_⟩)
              rintro text ⟨bytes', hbytes, hdecode⟩
              rw [hread] at hbytes
              cases hbytes
              rw [htext] at hdecode
              cases hdecode
          | ok text =>
              simp only [Source.textOf, htext]
              exact outcome_text rules entry hstat ⟨bytes, hread, htext⟩

theorem examine_path (disk : Disk) (rules : Rules) (entry : String) (path : Path) :
    (examine disk rules entry path).1.path = entry := by
  unfold examine
  split
  · rfl
  · rfl
  · split <;> rfl

/-! ## All files -/

/-- The outcome for an entry, with its note. -/
def outcomeAt (disk : Disk) (base : Path) (rules : Rules) (entry : String) : FileResult × Note :=
  examine disk rules entry (pathOf base entry)

/-- An entry ends the run if its path is no path, and asking for it is not intercepted. -/
def Blocks (disk : Disk) (base : Path) (entry : String) : Prop :=
  (pathOf base entry).hasNull = true ∧ disk.intercepts .stat (pathOf base entry) = false

/-- A path without a null character ends no run. -/
theorem not_blocks_of_hasNull {disk : Disk} {base : Path} {entry : String}
    (h : (pathOf base entry).hasNull = false) : ¬Blocks disk base entry := by
  rintro ⟨hnull, _⟩
  rw [h] at hnull
  cases hnull

theorem validateFile_of_blocks {disk : Disk} {base : Path} {entry : String} (rules : Rules)
    (h : Blocks disk base entry) : validateFile disk base rules entry = .error ⟨⟩ := by
  obtain ⟨hnull, hint⟩ := h
  rw [pathOf] at hnull hint
  simp [validateFile, Disk.atPath, hnull, hint]

theorem validateFile_of_not_blocks {disk : Disk} {base : Path} {entry : String} (rules : Rules)
    (h : ¬Blocks disk base entry) :
    validateFile disk base rules entry = .ok (outcomeAt disk base rules entry) := by
  rw [validateFile, Disk.atPath, if_neg]
  · rfl
  · intro hand
    rw [Bool.and_eq_true, Bool.not_eq_true'] at hand
    exact h hand

theorem mapM_validateFile_eq_ok_iff (disk : Disk) (base : Path) (rules : Rules)
    (entries : List String) (files : List (FileResult × Note)) :
    entries.mapM (validateFile disk base rules) = .ok files ↔
      (∀ e ∈ entries, ¬Blocks disk base e) ∧ files = entries.map (outcomeAt disk base rules) :=
  mapM_eq_ok_iff (fun _ h => ⟨⟨⟩, validateFile_of_blocks rules h⟩)
    (fun _ h => validateFile_of_not_blocks rules h) entries files

/-- The outcome for the primary file. -/
def primaryOf (disk : Disk) (c : Checklist) (base : Path) : FileResult :=
  (outcomeAt disk base c.rules c.primaryFile).1

/-- What a run tells if no entry ends it. -/
def told (disk : Disk) (c : Checklist) (base : Path) : Result × List Note :=
  let files := c.manifest.map (outcomeAt disk base c.rules)
  let (features, checked, notes) := checkFeatures c.features (some (primaryOf disk c base))
  (⟨c, files.map (·.1), features, checked⟩, .begun c base :: files.map (·.2) ++ notes)

theorem outcomeAt_path (disk : Disk) (base : Path) (rules : Rules) (entry : String) :
    (outcomeAt disk base rules entry).1.path = entry := examine_path disk rules entry _

/-- What an item is mapped to is found by the item, if that can be read off. -/
theorem find?_map_of_mem {α β : Type} [DecidableEq α] {f : α → β} {key : β → α}
    (hkey : ∀ a, key (f a) = a) {items : List α} {a : α} (h : a ∈ items) :
    (items.map f).find? (key · = a) = some (f a) := by
  induction items with
  | nil => exact absurd h List.not_mem_nil
  | cons b items ih =>
      rw [List.map_cons, List.find?_cons, hkey]
      by_cases hb : b = a
      · rw [decide_eq_true hb, hb]
      · rw [decide_eq_false hb]
        exact ih ((List.mem_cons.1 h).resolve_left (Ne.symm hb))

theorem find?_outcome {disk : Disk} {base : Path} {rules : Rules} {entries : List String}
    {entry : String} (h : entry ∈ entries) :
    ((entries.map (outcomeAt disk base rules)).map (·.1)).find? (·.path = entry) =
      some (outcomeAt disk base rules entry).1 := by
  rw [List.map_map]
  exact find?_map_of_mem (outcomeAt_path disk base rules) h

theorem filter_outcome {disk : Disk} {base : Path} {rules : Rules} {entries : List String}
    {entry : String} (hnodup : entries.Nodup) (h : entry ∈ entries) :
    ((entries.map (outcomeAt disk base rules)).map (·.1)).filter (·.path = entry) =
      [(outcomeAt disk base rules entry).1] := by
  have hnone : ∀ {l : List String}, entry ∉ l →
      ((l.map (outcomeAt disk base rules)).map (·.1)).filter (·.path = entry) = [] := by
    intro l hl
    rw [List.filter_eq_nil_iff]
    intro f hf
    rw [List.map_map] at hf
    obtain ⟨e, he, rfl⟩ := List.mem_map.1 hf
    simp only [Function.comp, outcomeAt_path, decide_eq_true_eq]
    rintro rfl
    exact hl he
  induction entries with
  | nil => exact absurd h List.not_mem_nil
  | cons e entries ih =>
      rw [List.nodup_cons] at hnodup
      rw [List.map_cons, List.map_cons, List.filter_cons, outcomeAt_path]
      by_cases he : e = entry
      · -- no later entry is the same
        subst he
        rw [decide_eq_true rfl, if_pos rfl, hnone hnodup.1]
      · rw [decide_eq_false he, if_neg Bool.false_ne_true]
        exact ih hnodup.2 ((List.mem_cons.1 h).resolve_left (Ne.symm he))

/-- **A run ends with a result exactly if no entry ends it, and then tells the outcomes.** -/
theorem run_eq_ok_iff (disk : Disk) (c : Checklist) (base : Path) (outcome : Result × List Note) :
    run disk c base = .ok outcome ↔
      (∀ e ∈ c.manifest, ¬Blocks disk base e) ∧ outcome = told disk c base := by
  rw [run]
  constructor
  · intro h
    cases hfiles : c.manifest.mapM (validateFile disk base c.rules) with
    | error n => simp [hfiles, bind, Except.bind] at h
    | ok files =>
        rw [hfiles] at h
        obtain ⟨hfree, rfl⟩ := (mapM_validateFile_eq_ok_iff _ _ _ _ _).1 hfiles
        -- the primary file is in the manifest, so its outcome is found by its path
        simp only [bind, Except.bind, find?_outcome c.primaryFile_mem, Except.ok.injEq] at h
        exact ⟨hfree, h.symm⟩
  · rintro ⟨hfree, rfl⟩
    rw [(mapM_validateFile_eq_ok_iff _ _ _ _ _).2 ⟨hfree, rfl⟩]
    simp only [bind, Except.bind, find?_outcome c.primaryFile_mem]
    rfl

/-! ## What a result says -/

/-- What a result says about the disk that was looked at. -/
structure Result.Describes (disk : Disk) (c : Checklist) (base : Path) (r : Result) : Prop where
  checklist : r.checklist = c
  /-- There is one outcome for each entry, in order. -/
  paths : r.files.map (·.path) = c.manifest
  outcome : ∀ f ∈ r.files, Outcome disk c.rules (pathOf base f.path) f
  /-- The features are looked for in the text of the one outcome for the primary file. -/
  primary : ∃ file, r.files.filter (·.path = c.primaryFile) = [file]
    ∧ (r.featuresChecked = true ↔ file.status = .ok ∨ file.status = .defects)
    ∧ ∀ text, file.content = some text → r.features.map (·.1) = c.features
        ∧ ∀ f ∈ r.features, (f.2 = true ↔ f.1.marker.toList <:+: text)
  unchecked : r.featuresChecked = false → r.features = []

/-- A text was read exactly if the status says so. -/
theorem Outcome.isSome_content_iff {disk : Disk} {rules : Rules} {path : Path} {r : FileResult}
    (h : Outcome disk rules path r) :
    r.content.isSome = true ↔ r.status = .ok ∨ r.status = .defects := by
  constructor
  · intro hsome
    cases hstatus : r.status with
    | ok => exact .inl rfl
    | defects => exact .inr rfl
    | missing =>
        rw [(h.of_missing hstatus).2] at hsome
        cases hsome
    | unreadable =>
        rw [(h.of_unreadable hstatus).1] at hsome
        cases hsome
  · intro hread
    obtain ⟨text, _, _, hcontent, _⟩ := h.of_read hread
    rw [hcontent]
    rfl

theorem files_told (disk : Disk) (c : Checklist) (base : Path) :
    (told disk c base).1.files =
      c.manifest.map fun e => (outcomeAt disk base c.rules e).1 := by
  show (c.manifest.map (outcomeAt disk base c.rules)).map (·.1) = _
  rw [List.map_map]
  rfl

theorem told_describes (disk : Disk) (c : Checklist) (base : Path) :
    (told disk c base).1.Describes disk c base := by
  have hprimary : Outcome disk c.rules (pathOf base c.primaryFile) (primaryOf disk c base) :=
    examine_outcome disk c.rules c.primaryFile _
  have hread := hprimary.isSome_content_iff
  refine ⟨rfl, ?_, ?_, ⟨primaryOf disk c base, filter_outcome c.manifest_nodup c.primaryFile_mem,
    ?_, ?_⟩, ?_⟩
  · rw [files_told, List.map_map]
    exact List.map_id'' (fun e => outcomeAt_path disk base c.rules e) _
  · intro f hf
    rw [files_told] at hf
    obtain ⟨e, _, rfl⟩ := List.mem_map.1 hf
    rw [outcomeAt_path]
    exact examine_outcome disk c.rules e _
  · -- the features are checked exactly if there is a text to look in
    rw [← hread]
    cases hcontent : (primaryOf disk c base).content with
    | none => simp [told, checkFeatures, hcontent]
    | some text => simp [told, checkFeatures, hcontent]
  · intro text hcontent
    have hfeatures : (told disk c base).1.features = Source.presence text c.features := by
      simp [told, checkFeatures, hcontent]
    rw [hfeatures, Source.presence, List.map_map]
    refine ⟨List.map_id'' (fun f => rfl) _, fun f hf => ?_⟩
    obtain ⟨g, _, rfl⟩ := List.mem_map.1 hf
    exact Source.isPresent_iff
  · cases hcontent : (primaryOf disk c base).content with
    | none => simp [told, checkFeatures, hcontent]
    | some text => simp [told, checkFeatures, hcontent]

/-- **What a run tells holds of the disk that was looked at.** -/
theorem run_describes {disk : Disk} {c : Checklist} {base : Path} {result : Result}
    {notes : List Note} (h : run disk c base = .ok (result, notes)) :
    result.Describes disk c base := by
  obtain ⟨_, heq⟩ := (run_eq_ok_iff disk c base _).1 h
  have hresult : result = (told disk c base).1 := congrArg Prod.fst heq
  rw [hresult]
  exact told_describes disk c base

/-- A checklist of two files. -/
def twoFiles : Checklist where
  name := "Two"
  manifest := ["A.cs", "B.cs"]
  primaryFile := "A.cs"
  features := [⟨"{}", "Braces"⟩]
  manifest_ne_nil := by simp
  manifest_nodup := by simp
  primaryFile_mem := by simp

/-- A disk on which one file is, with a pair of braces in it. -/
def oneFile : Disk where
  stat p := if p = Path.ofString "A.cs" then .ok () else .error (.code .notFound)
  read _ := .ok [123, 125]
  canonical p := .ok p
  intercepts _ _ := false

theorem twoFiles_free : ∀ e ∈ twoFiles.manifest, ¬Blocks oneFile ⟨0, []⟩ e := by
  have hnull : ∀ e ∈ twoFiles.manifest, (pathOf ⟨0, []⟩ e).hasNull = false := by decide
  exact fun e he => not_blocks_of_hasNull (hnull e he)

theorem twoFiles_described : ∃ result notes,
    run oneFile twoFiles ⟨0, []⟩ = .ok (result, notes)
      ∧ result.Describes oneFile twoFiles ⟨0, []⟩ := by
  have hrun := (run_eq_ok_iff oneFile twoFiles ⟨0, []⟩ _).2 ⟨twoFiles_free, rfl⟩
  exact ⟨_, _, hrun, run_describes hrun⟩

end PackageGate
