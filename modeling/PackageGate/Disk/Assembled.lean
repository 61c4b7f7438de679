import PackageGate.Disk.Canonical

/-!
# A disk with a tree and faults

The disk of a working directory in a tree. Some paths may be faulty: whoever asks about such a path
in these words gets a failure in place of an answer, whatever the tree holds there.
-/

namespace PackageGate.Disk

/-- A failure in place of the answer to a question about a path. -/
structure Fault where
  path : Path
  question : Question
  failure : Failure
deriving Repr

/-- The failure that is in place of an answer. -/
def faultAt (faults : List Fault) (question : Question) (p : Path) : Option Failure :=
  (faults.find? fun f => f.path = p && f.question = question).map (·.failure)

/-- The disk of a tree with faults, as seen from a working directory. -/
def assemble (top : Node) (cwd : Place) (faults : List Fault) : Disk where
  stat p := match faultAt faults .stat p with
    | some failure => .error failure
    | none => (statAt top cwd p).mapError .code
  read p := match faultAt faults .read p with
    | some failure => .error failure
    | none => (readAt top cwd p).mapError .code
  canonical := canonicalAt top cwd
  intercepts question p := (faultAt faults question p).isSome

/-- The place where a path is created: its links are replaced, except the last step's. -/
def siteOf (top : Node) (cwd : Place) (p : Path) : Place :=
  match p.steps.getLast? with
  | none => p.spot cwd
  | some name => ((resolve top cwd { p with steps := p.steps.dropLast }).child name).spot cwd

/-- The tree with a node created at a path. A directory that is there already stays as it is. -/
def create (top : Node) (cwd : Place) (p : Path) (new : Node) : Node :=
  let site := siteOf top cwd p
  match new, top.at? site with
  | .directory [], some (.directory _) => top
  | _, _ => Node.put new site top

/-- The tree without what a path names. A link is removed, not what it stands for. -/
def remove (top : Node) (cwd : Place) (p : Path) : Node := Node.erase (siteOf top cwd p) top

end PackageGate.Disk
