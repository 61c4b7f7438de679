import PackageGate.Disk.Walk

/-!
# Paths without links

A path is made canonical by replacing its links until none is left and taking double dots back.
This is done on the names alone, so that a path may also lead to what is not there: a missing name
is kept like one of a directory, and double dots take it back.

Links are told apart by the path that is spelled on the way to them, from the working directory or
from the root. Where a link turns up inside its own replacement in the same spelling, replacing
stops, and the rest of the path is kept as it is. If such a path leads in a circle when it is
followed, it has no canonical form.
-/

namespace PackageGate.Disk

/-! ## Spelled paths -/

/-- Takes double dots back in steps from a place, without looking at what is there. -/
def collapse (place : Place) : List String → Place
  | [] => place
  | name :: rest =>
    if !isStep name then collapse place rest
    else if name = ".." then collapse place.dropLast rest
    else collapse (place ++ [name]) rest

namespace Path

/-- The place that a path spells from a working directory. -/
def spot (cwd : Place) (p : Path) : Place := collapse (if p.isAbsolute then [] else cwd) p.steps

/-- The path with one step behind it. -/
def child (p : Path) (name : String) : Path := { p with steps := p.steps ++ [name] }

/-- The path before its first step: the root, or the working directory. -/
def start (absolute : Bool) : Path := ⟨if absolute then 1 else 0, []⟩

/-- The path without its last step. Above the working directory, double dots pile up. -/
def up (p : Path) : Path :=
  if p.isAbsolute || (p.steps ≠ [] && p.steps.getLast? ≠ some "..") then
    { p with steps := p.steps.dropLast }
  else p.child ".."

/-- The path with the rest of a text behind it, as it is written there. A rest that begins with a
slash starts at the root. -/
def keep (p : Path) (rest : List String) : Path := p.join (ofString ("/".intercalate rest))

end Path

/-! ## Replacing links -/

/-- The text of the link at a path, if there is a link. -/
def linkAt? (top : Node) (cwd : Place) (p : Path) : Option String :=
  match top.at? (p.spot cwd) with
  | some (.link target) => some target
  | _ => none

/-- The links on the way: each is replaced by a path, or being replaced. -/
abbrev Replaced := List (Path × Option Path)

/-- What replacing has come to: the path so far, and whether replacing went on to the end. If it had
to stop, the path has the steps behind it that were kept. -/
structure Resolution where
  path : Path
  isComplete : Bool
  replaced : Replaced
deriving Repr

/-- Replaces the links on the way along the steps. The depth bounds how many links stand inside
each other. -/
def resolveSteps (top : Node) (cwd : Place) :
    (depth : Nat) → (here : Path) → Replaced → List String → Resolution
  | _, here, replaced, [] => ⟨here, true, replaced⟩
  | depth, here, replaced, name :: rest =>
    if !isStep name then resolveSteps top cwd depth here replaced rest
    else if name = ".." then resolveSteps top cwd depth here.up replaced rest
    else
      let there := here.child name
      match linkAt? top cwd there with
      | none => resolveSteps top cwd depth there replaced rest
      | some target =>
        match replaced.lookup there with
        | some (some path) => resolveSteps top cwd depth path replaced rest
        | some none => ⟨there.keep rest, false, replaced⟩
        | none =>
          match depth with
          | 0 => ⟨there.keep rest, false, replaced⟩
          | depth + 1 =>
            let start := if linkIsAbsolute target then .start true else here
            let inner := resolveSteps top cwd depth start ((there, none) :: replaced)
              (rawSteps target)
            if inner.isComplete then
              resolveSteps top cwd depth inner.path ((there, some inner.path) :: inner.replaced)
                rest
            else ⟨inner.path.keep rest, false, inner.replaced⟩
termination_by depth _ _ steps => (depth, steps.length)

mutual

/-- How many nodes a tree has. -/
def Node.count : Node → Nat
  | .directory entries => Node.countEntries entries + 1
  | _ => 1

/-- How many nodes the entries have. -/
def Node.countEntries : List (String × Node) → Nat
  | [] => 0
  | (_, n) :: rest => Node.count n + Node.countEntries rest

end

/-- How deep links may stand inside each other. A link can be spelled from the root, and from the
working directory with as many double dots in front as that has steps, and some more. -/
def depthLimit (top : Node) (cwd : Place) : Nat := linkLimit + top.count * (cwd.length + 3)

/-- The path with its links replaced. -/
def resolve (top : Node) (cwd : Place) (p : Path) : Path :=
  (resolveSteps top cwd (depthLimit top cwd) (.start p.isAbsolute) [] p.steps).path

/-- The canonical form of a path, or the path at which links run in a circle. -/
def canonicalAt (top : Node) (cwd : Place) (p : Path) : Except Path Path :=
  let resolved := resolve top cwd p
  let path : Path := ⟨max 1 resolved.slashes, resolved.spot cwd⟩
  match statAt top cwd path with
  | .error code => if code = .tooManyLinks then .error path else .ok path
  | .ok () => .ok path

end PackageGate.Disk
