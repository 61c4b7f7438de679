import PackageGate.Source.Features
import PackageGate.Source.Read
import PackageGate.Validation.Result

/-!
# Running a validation

The files of the manifest are looked at in their order. A file that is absent is missing, one that
cannot be read is unreadable, one with defects in its structure has defects, and all others are
fine. The features are looked for in the text of the primary file that was read on the way.

A run also leaves notes about what it did, which are printed if diagnostics are asked for. Those on
the files before a path that is no path are left even though the run ends there without a result.
-/

namespace PackageGate

open Disk (Path NullInPath)

/-- What a run notes down. -/
inductive Note where
  /-- The run begins. -/
  | begun (checklist : Checklist) (base : Path)
  /-- Nothing is at the path of an entry. -/
  | absent (entry : String) (path : Path)
  /-- An entry cannot be read. -/
  | unreadable (entry : String) (problem : Source.ReadProblem)
  /-- An entry was read and checked. -/
  | checked (entry : String) (characters defects : Nat)
  /-- The features are not looked for. -/
  | skipped (file : String) (status : Status)
deriving Repr

/-- The outcome for the entry of a manifest whose text was read. -/
def FileResult.ofText (rules : Rules) (entry : String) (text : List Char) : FileResult :=
  let defects := Source.defectMessages rules text
  ⟨entry, if defects.isEmpty then .ok else .defects, defects, some text⟩

/-- The outcome for an entry that cannot be read. -/
def FileResult.ofProblem (entry : String) (problem : Source.ReadProblem) : FileResult :=
  ⟨entry, .unreadable, [Source.readFailure problem.message], none⟩

/-- The outcome for an entry that is absent. -/
def FileResult.absent (entry : String) : FileResult := ⟨entry, .missing, [], none⟩

/-- Looks at the file of an entry, at its path. -/
def examine (disk : Disk) (rules : Rules) (entry : String) (path : Path) : FileResult × Note :=
  match Source.isThere disk path with
  | .error problem => (.ofProblem entry problem, .unreadable entry problem)
  | .ok false => (.absent entry, .absent entry path)
  | .ok true =>
    match Source.read disk path with
    | .error problem => (.ofProblem entry problem, .unreadable entry problem)
    | .ok text =>
      let result := FileResult.ofText rules entry text
      (result, .checked entry text.length result.defects.length)

/-- Looks at the file of an entry below a base directory. -/
def validateFile (disk : Disk) (base : Path) (rules : Rules) (entry : String) :
    Except NullInPath (FileResult × Note) :=
  let path := base.join (Path.ofString entry)
  disk.atPath .stat path (examine disk rules entry path)

/-- Looks at the features in the outcome for the primary file. -/
def checkFeatures (features : List Feature) (primary : Option FileResult) :
    List (Feature × Bool) × Bool × List Note :=
  match primary with
  | none => ([], false, [])
  | some file =>
    match file.content with
    | some text => (Source.presence text features, true, [])
    | none => ([], false, [.skipped file.path file.status])

/-- Runs a validation: the result, and the notes made on the way. -/
def run (disk : Disk) (checklist : Checklist) (base : Path) :
    Except NullInPath (Result × List Note) := do
  let files ← checklist.manifest.mapM (validateFile disk base checklist.rules)
  let results := files.map (·.1)
  let primary := results.find? (·.path = checklist.primaryFile)
  let (features, checked, notes) := checkFeatures checklist.features primary
  .ok (⟨checklist, results, features, checked⟩,
    .begun checklist base :: files.map (·.2) ++ notes)

/-- The notes on the entries before the first one whose path is no path. -/
def notesBefore (disk : Disk) (base : Path) (rules : Rules) : List String → List Note
  | [] => []
  | entry :: rest =>
    match validateFile disk base rules entry with
    | .error _ => []
    | .ok (_, note) => note :: notesBefore disk base rules rest

/-- The notes that a run leaves, with a result or without. -/
def trail (disk : Disk) (checklist : Checklist) (base : Path) : List Note :=
  match run disk checklist base with
  | .ok (_, notes) => notes
  | .error _ => .begun checklist base :: notesBefore disk base checklist.rules checklist.manifest

/-- A run with a result leaves the notes that it gives. -/
theorem trail_of_run {disk : Disk} {checklist : Checklist} {base : Path} {result : Result}
    {notes : List Note} (h : run disk checklist base = .ok (result, notes)) :
    trail disk checklist base = notes := by
  simp [trail, h]

end PackageGate
