import PackageGate.Checklist.Basic

/-!
# Results of a validation

A validation looks at every file of the manifest and, if the primary file could be read, at the
features. The result tells the outcome for each file and each feature. The counts of what failed,
the exit code and whether all is good are computed from it.
-/

namespace PackageGate

/-- What became of one file. -/
inductive Status where
  | ok
  | defects
  | missing
  | unreadable
deriving Repr, DecidableEq

/-- The word for a status. -/
def Status.word : Status → String
  | .ok => "ok"
  | .defects => "defects"
  | .missing => "missing"
  | .unreadable => "unreadable"

/-- All statuses. -/
def Status.all : List Status := [.ok, .defects, .missing, .unreadable]

/-- The status of a word. -/
def Status.ofWord? (word : String) : Option Status := Status.all.find? (·.word = word)

theorem Status.ofWord?_word (s : Status) : Status.ofWord? s.word = some s := by cases s <;> decide

/-- The outcome for one file: its entry in the manifest, its status, its defects, and its text if it
was read. -/
structure FileResult where
  path : String
  status : Status
  defects : List String := []
  content : Option (List Char) := none
deriving Repr, DecidableEq

/-- Whether nothing is wrong with a file. -/
def FileResult.isClean (r : FileResult) : Bool := r.status = .ok

/-- The outcome of a validation. If the primary file was not read, the features are not checked and
none are listed. -/
structure Result where
  checklist : Checklist
  files : List FileResult
  features : List (Feature × Bool)
  featuresChecked : Bool
deriving Repr, DecidableEq

namespace Result

/-- The paths of the files with a status. -/
def pathsWith (r : Result) (s : Status) : List String :=
  (r.files.filter (·.status = s)).map (·.path)

/-- The labels of the features that are not present. -/
def missingFeatures (r : Result) : List String :=
  (r.features.filter (!·.2)).map (·.1.label)

/-- Whether all files are clean and all features were checked and found. -/
def allGood (r : Result) : Bool :=
  r.files.all (·.isClean) && r.featuresChecked && r.missingFeatures.isEmpty

/-- The kinds of failures, in the order of the report, each with its number. -/
def counts (r : Result) : List (String × Nat) :=
  [("missing file(s)", (r.pathsWith .missing).length),
   ("unreadable file(s)", (r.pathsWith .unreadable).length),
   ("file(s) with syntax issues", (r.pathsWith .defects).length),
   ("missing feature(s)", r.missingFeatures.length)]

/-- The exit code that tells whether all is good. -/
def exitCode (r : Result) : Nat := if r.allGood then 0 else 1

theorem exitCode_eq_zero_iff (r : Result) : r.exitCode = 0 ↔ r.allGood = true := by
  unfold exitCode
  split <;> simp_all

end Result

end PackageGate
