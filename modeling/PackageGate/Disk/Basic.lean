import PackageGate.Disk.Code
import PackageGate.Disk.Path
import PackageGate.Text.Quoted

/-!
# What the program asks of a disk

A disk answers three questions about a path: is there something, what bytes are in the file, and
which path without links leads to the same place. The first two may fail in any way that operating
systems know. Nothing is assumed about how the answers hang together, so that what holds of every
disk also holds of one that changes its mind.

A path with a null character is no path at all. Asking for it ends the program, unless the question
is intercepted: then the answer is there before the operating system sees the path.
-/

namespace PackageGate.Disk

/-- Why a request failed: with a code, or in words only. -/
inductive Failure where
  | code (c : Code)
  | worded (message : String)
deriving Repr, DecidableEq

/-- The short wording of a failure. -/
def Failure.reason : Failure → String
  | .code c => c.text
  | .worded message => message

/-- The full wording of a failure at a path. -/
def Failure.message (path : Path) : Failure → String
  | .code c => s!"[Errno {c.number}] {c.text}: {Text.quoted path.toString}"
  | .worded message => message

/-- Whether a failure says that a path leads nowhere. -/
def Failure.isAbsence : Failure → Bool
  | .code c => c.isAbsence
  | .worded _ => false

/-- Whether a failure says that access is refused. -/
def Failure.isRefusal : Failure → Bool
  | .code c => c.isRefusal
  | .worded _ => false

/-- The questions that may fail. -/
inductive Question where
  | stat
  | read
deriving Repr, DecidableEq

/-- A path holds a null character. -/
structure NullInPath where
deriving Repr, DecidableEq

end PackageGate.Disk

namespace PackageGate

open Disk (Path Failure Question NullInPath)

/-- The answers of a disk. -/
structure Disk where
  /-- Whether a path leads to something. -/
  stat : Path → Except Failure Unit
  /-- The bytes of the file that a path leads to. -/
  read : Path → Except Failure (List UInt8)
  /-- The path without links and dots to where a path leads, or the path at which links run in a
  circle. -/
  canonical : Path → Except Path Path
  /-- Whether a question about a path is answered before the operating system sees the path. -/
  intercepts : Question → Path → Bool

/-- An answer that takes a question about a path. The path must not hold a null character, unless
the question is intercepted. -/
def Disk.atPath {α : Type} (disk : Disk) (question : Question) (path : Path) (answer : α) :
    Except NullInPath α :=
  if path.hasNull && !disk.intercepts question path then .error ⟨⟩ else .ok answer

/-- Every question about a path without a null character is answered. -/
theorem Disk.atPath_eq_ok {α : Type} (disk : Disk) (question : Question) {path : Path} (answer : α)
    (h : path.hasNull = false) : disk.atPath question path answer = .ok answer := by
  simp [Disk.atPath, h]

end PackageGate
