import PackageGate.Text.Split
import PackageGate.Text.Utf8

/-!
# Paths

A path is relative or starts at the root, and names one step after the other. Empty steps and single
dots say nothing and are dropped, so that `a//b`, `./a/b` and `a/b/` are the same path; double dots
are kept, since what they lead to depends on links. A path without steps is written as a single dot.

Two slashes in front are kept apart from one, and three or more count as one.
-/

namespace PackageGate.Disk

/-- A path: the number of slashes in front, and the steps. -/
structure Path where
  slashes : Nat
  steps : List String
deriving Repr, DecidableEq, Inhabited

/-- The steps in a text, as they are written. -/
def rawSteps (text : String) : List String :=
  (Text.splitAt '/' text.toList).map String.ofList

/-- Whether a step says something. -/
def isStep (step : String) : Bool := step ≠ "" && step ≠ "."

namespace Path

/-- The path that a text writes. -/
def ofString (text : String) : Path where
  slashes := match (text.toList.takeWhile (· = '/')).length with
    | 2 => 2
    | n => min n 1
  steps := (rawSteps text).filter isStep

/-- Whether a path starts at the root. -/
def isAbsolute (p : Path) : Bool := p.slashes ≠ 0

/-- A path as text. -/
def toString (p : Path) : String :=
  if p.slashes = 0 && p.steps.isEmpty then "."
  else String.ofList (List.replicate p.slashes '/') ++ "/".intercalate p.steps

instance : ToString Path := ⟨Path.toString⟩

/-- A path that is followed from the end of another. An absolute path takes its place. -/
def join (base entry : Path) : Path :=
  if entry.isAbsolute then entry else { base with steps := base.steps ++ entry.steps }

/-- The last step, if there is one. -/
def name (p : Path) : String := p.steps.getLastD ""

/-- Whether a path holds the character that ends texts for the operating system. -/
def hasNull (p : Path) : Bool := p.steps.any fun step => step.toList.contains '\x00'

/-- How many bytes a path has as text. -/
def size (p : Path) : Nat := Text.Utf8.size p.toString.toList

@[simp] theorem join_of_isAbsolute {base entry : Path} (h : entry.isAbsolute = true) :
    base.join entry = entry := by simp [join, h]

theorem steps_join {base entry : Path} (h : entry.isAbsolute = false) :
    (base.join entry).steps = base.steps ++ entry.steps := by simp [join, h]

end Path

end PackageGate.Disk
