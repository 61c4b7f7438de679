import PackageGate.CommandLine.Program

/-!
# Sessions

The program, and the validations that it is made of, may run several times in one session. Each
prints as it goes along: the report and the problems of a checklist to one stream, diagnostics to
another. A fault ends the computation, and what has been printed by then stays printed.

Diagnostics are printed when they are made, if the switch for them is on. The switch belongs to the
session, so that one operation leaves it to the next. It is set directly, and by the program when it
has read its arguments to the end.
-/

namespace PackageGate.CommandLine

open Disk (Path)

/-! ## Computations that print -/

/-- A computation that prints: the lines of its output, those of its diagnostics, and how it
ends. -/
structure Printing (α : Type) where
  output : List String
  errors : List String
  ending : Except Crash α

namespace Printing

/-- A computation that prints nothing. -/
def silent {α : Type} (ending : Except Crash α) : Printing α := ⟨[], [], ending⟩

/-- Goes on after a computation, unless a fault has ended it. -/
def andThen {α β : Type} (p : Printing α) (f : α → Printing β) : Printing β :=
  match p.ending with
  | .error crash => ⟨p.output, p.errors, .error crash⟩
  | .ok a => ⟨p.output ++ (f a).output, p.errors ++ (f a).errors, (f a).ending⟩

instance : Monad Printing where
  pure a := silent (.ok a)
  bind := andThen

/-- How printing ends, by the mistake that it has met. -/
def endingOf : Option Markup.Mistake → Except Crash Unit
  | none => .ok ()
  | some mistake => .error (.markup mistake)

/-- Prints marked-up texts to the output. -/
def say (colours : Bool) (texts : List (List Char)) : Printing Unit :=
  let (lines, mistake) := Markup.printout colours texts
  ⟨lines, [], endingOf mistake⟩

/-- Prints marked-up texts as diagnostics, if they are asked for. -/
def diagnose (enabled : Bool) (texts : List (List Char)) : Printing Unit :=
  if enabled then
    let (lines, mistake) := Markup.printout false texts
    ⟨[], lines, endingOf mistake⟩
  else silent (.ok ())

end Printing

/-! ## Validations and the program -/

/-- What the operations of a session share: the disk, whether the output has colours, and whether
diagnostics are asked for. -/
structure Session where
  disk : Disk
  colours : Bool
  debug : Bool

namespace Session

/-- Makes a note. -/
def note (s : Session) (n : Note) : Printing Unit :=
  .diagnose s.debug (Diagnostics.markNote n)

/-- Looks at the file of an entry below a base directory. -/
def validateFile (s : Session) (base : Path) (rules : Rules) (entry : String) :
    Printing FileResult := do
  match PackageGate.validateFile s.disk base rules entry with
  | .error _ => .silent (.error .nullInPath)
  | .ok (file, n) =>
    s.note n
    return file

/-- Runs a validation, with its notes made on the way. -/
def validate (s : Session) (checklist : Checklist) (base : Path) : Printing Result := do
  s.note (.begun checklist base)
  let files ← checklist.manifest.mapM (s.validateFile base checklist.rules)
  let primary := files.find? (·.path = checklist.primaryFile)
  let (features, checked, notes) := checkFeatures checklist.features primary
  notes.forM s.note
  return ⟨checklist, files, features, checked⟩

/-- Does what is requested, and gives the exit code. -/
def perform (s : Session) (r : Request) : Printing Nat := do
  match ← .silent (chooseChecklist s.disk r.checklist) with
  | .error problems =>
    .say s.colours (markProblems problems)
    return 1
  | .ok checklist =>
    let base ← .silent (chooseBase s.disk r.baseDir)
    let result ← s.validate checklist base
    .say s.colours ((Report.sentences result).map Report.mark)
    return result.exitCode

/-- Runs the program with its arguments, which may set the switch for diagnostics. -/
def main (s : Session) (arguments : List String) : Session × Printing Nat :=
  match read arguments with
  | .error mistake => (s, ⟨[], refusal mistake, .ok 1⟩)
  | .ok .help => (s, ⟨help, [], .ok 0⟩)
  | .ok (.request r) =>
    let s := { s with debug := r.debug }
    (s, s.perform r)

end Session

/-! ## Operations -/

/-- What can be done in a session. -/
inductive Operation where
  /-- The disk changes. -/
  | setDisk (disk : Disk)
  /-- The switch for diagnostics is set. -/
  | setDebug (enabled : Bool)
  /-- The file of an entry is looked at. -/
  | validateFile (base : Path) (rules : Rules) (entry : String)
  /-- A validation is run. -/
  | validate (checklist : Checklist) (base : Path)
  /-- The program is run. -/
  | main (arguments : List String)

/-- What an operation gives. -/
inductive Answer where
  | nothing
  | file (f : FileResult)
  | result (r : Result)
  | exitCode (code : Nat)
deriving Repr, DecidableEq

namespace Session

/-- Does an operation: the session that it leaves, and what it prints and gives. -/
def step (s : Session) : Operation → Session × Printing Answer
  | .setDisk disk => ({ s with disk }, pure .nothing)
  | .setDebug enabled => ({ s with debug := enabled }, pure .nothing)
  | .validateFile base rules entry => (s, do return .file (← s.validateFile base rules entry))
  | .validate checklist base => (s, do return .result (← s.validate checklist base))
  | .main arguments =>
    let (s, code) := s.main arguments
    (s, do return .exitCode (← code))

/-- The session that operations leave, one after the other. -/
def after (s : Session) : List Operation → Session
  | [] => s
  | o :: rest => (s.step o).1.after rest

/-- What operations print and give, one after the other. -/
def trace (s : Session) : List Operation → List (Printing Answer)
  | [] => []
  | o :: rest => (s.step o).2 :: (s.step o).1.trace rest

end Session

end PackageGate.CommandLine
