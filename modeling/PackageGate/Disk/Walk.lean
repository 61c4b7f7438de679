import PackageGate.Disk.Tree

/-!
# Following a path

The steps of a path are followed one by one from a directory. Before each step, single and double
dots included, the place reached so far has to be a directory. A link is replaced by the steps of
its text, from the directory that it is in or from the root. Forty links may be followed on the way,
and a slash at the end of a link's text asks for a directory once more.

A name may have 255 bytes and a path 4095.
-/

namespace PackageGate.Disk

/-- The steps in the text of a link. A slash at the end counts as a dot, since it can only follow a
directory. -/
def linkSteps (target : String) : List String :=
  (rawSteps target).filter (· ≠ "") ++ (if target.toList.getLast? = some '/' then ["."] else [])

/-- Whether the text of a link starts at the root. -/
def linkIsAbsolute (target : String) : Bool := target.toList.head? = some '/'

/-- How many links may be followed on the way along one path. -/
def linkLimit : Nat := 40

/-- The greatest number of bytes of a name. -/
def nameLimit : Nat := 255

/-- The number of bytes that a path has to stay below. -/
def pathLimit : Nat := 4096

/-- What one step leads to. -/
inductive Step where
  | place (p : Place)
  | link (target : String)
deriving Repr

/-- Takes one step from a place. -/
def step (top : Node) (here : Place) (name : String) : Except Code Step :=
  if !((top.at? here).map Node.isDirectory).getD false then .error .notDirectory
  else if name = "." then .ok (.place here)
  else if name = ".." then .ok (.place here.dropLast)
  else if nameLimit < Text.Utf8.size name.toList then .error .nameTooLong
  else match top.at? (here ++ [name]) with
    | none => .error .notFound
    | some (.link target) => .ok (.link target)
    | some _ => .ok (.place (here ++ [name]))

/-- Follows steps from a place, with a number of links that may still be followed. -/
def walk (top : Node) : (links : Nat) → (here : Place) → List String → Except Code Place
  | _, here, [] => .ok here
  | links, here, name :: rest =>
    match step top here name with
    | .error code => .error code
    | .ok (.place there) => walk top links there rest
    | .ok (.link target) =>
      match links with
      | 0 => .error .tooManyLinks
      | links + 1 =>
        walk top links (if linkIsAbsolute target then [] else here) (linkSteps target ++ rest)
termination_by links _ steps => (links, steps.length)

/-- The place that a path leads to from a working directory. -/
def locate (top : Node) (cwd : Place) (p : Path) : Except Code Place :=
  if pathLimit ≤ p.size then .error .nameTooLong
  else walk top linkLimit (if p.isAbsolute then [] else cwd) p.steps

/-- Whether a path leads to something. -/
def statAt (top : Node) (cwd : Place) (p : Path) : Except Code Unit :=
  (locate top cwd p).map fun _ => ()

/-- The bytes of the file that a path leads to. -/
def readAt (top : Node) (cwd : Place) (p : Path) : Except Code (List UInt8) :=
  match locate top cwd p with
  | .error code => .error code
  | .ok place =>
    match top.at? place with
    | some (.file bytes) => .ok bytes
    | some (.directory _) => .error .isDirectory
    | _ => .error .notFound

/-- What can be read is there. -/
theorem statAt_of_readAt {top : Node} {cwd : Place} {p : Path} {bytes : List UInt8}
    (h : readAt top cwd p = .ok bytes) : statAt top cwd p = .ok () := by
  unfold readAt at h
  unfold statAt
  cases hl : locate top cwd p with
  | error code => simp [hl] at h
  | ok place => rfl

end PackageGate.Disk
