import PackageGate.Disk.Basic

/-!
# Recorded answers

A disk that knows the answers to questions asked before, and nothing else. A path whose file could
be read leads to something, and so does one where reading failed for another reason than that
nothing is there; the answer to the one question follows from that to the other.
-/

namespace PackageGate.Disk

/-- What became of reading the file at a path. -/
structure Recording where
  path : Path
  answer : Except Failure (List UInt8)

/-- Where a path leads to without links. -/
structure Canonical where
  path : Path
  answer : Path

/-- The answer recorded for a path. A path that was not asked for leads nowhere. -/
def answerAt (recordings : List Recording) (p : Path) : Except Failure (List UInt8) :=
  match recordings.find? (·.path = p) with
  | some r => r.answer
  | none => .error (.code .notFound)

/-- The disk of some recorded answers. -/
def ofAnswers (recordings : List Recording) (canonicals : List Canonical) : Disk where
  stat p := match answerAt recordings p with
    | .ok _ => .ok ()
    | .error failure => if failure.isAbsence then .error failure else .ok ()
  read := answerAt recordings
  intercepts _ _ := false
  canonical p := .ok (((canonicals.find? (·.path = p)).map (·.answer)).getD p)

end PackageGate.Disk
