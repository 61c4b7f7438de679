import PackageGate.Disk.Basic
import PackageGate.Source.Structure
import PackageGate.Text.Newline

/-!
# Reading source files

A source file is absent if nothing is at its path or if a file is in the place of one of its
directories. Any other failure to look at it, and any failure to read it as text, is a reading
problem, which counts as a defect of the file.
-/

namespace PackageGate.Source

open Disk (Path Failure)

/-- Why a source file cannot be read. -/
inductive ReadProblem where
  /-- Access is refused. -/
  | refused
  /-- The request fails in another way. -/
  | failed (f : Failure)
  /-- The bytes are not those of a text. -/
  | notText (flaw : Text.Utf8.Flaw)
deriving Repr, DecidableEq

/-- The wording of a reading problem. -/
def ReadProblem.message : ReadProblem → String
  | .refused => "Permission denied reading file"
  | .failed f => s!"Cannot read file: {f.reason}"
  | .notText flaw => s!"File is not valid UTF-8 (byte {flaw.offset}: {flaw.reason.message})"

/-- The defect that a reading problem counts as, by its wording. -/
def readFailure (reason : String) : String := s!"Failed to read file: {reason}"

/-- The reading problem that a failed request is. -/
def ReadProblem.ofFailure (f : Failure) : ReadProblem := if f.isRefusal then .refused else .failed f

/-- Whether a source file is there. -/
def isThere (disk : Disk) (path : Path) : Except ReadProblem Bool :=
  match disk.stat path with
  | .ok () => .ok true
  | .error f => if f.isAbsence then .ok false else .error (.ofFailure f)

/-- The text that bytes stand for, with line feeds only. -/
def textOf (bytes : List UInt8) : Except ReadProblem (List Char) :=
  match Text.Utf8.decode bytes with
  | .ok text => .ok (Text.unifyNewlines text)
  | .error flaw => .error (.notText flaw)

/-- The text of a source file. -/
def read (disk : Disk) (path : Path) : Except ReadProblem (List Char) :=
  match disk.read path with
  | .ok bytes => textOf bytes
  | .error f => .error (.ofFailure f)

/-- The defects of the file at a path, which may be that it cannot be read. -/
def checkFile (disk : Disk) (rules : Rules) (path : Path) : List String :=
  match read disk path with
  | .ok text => defectMessages rules text
  | .error problem => [readFailure problem.message]

end PackageGate.Source
