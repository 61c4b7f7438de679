import PackageGate.Checklist.Load
import PackageGate.CommandLine.Arguments
import PackageGate.Validation.Diagnostics

/-!
# The program

The program reads its arguments, loads the checklist that they name, runs the validation and prints
the report. It ends in one of four ways: with help, with a mistake in the arguments, with the
problems of the checklist, or with the report. The exit code is zero after help and after a report
in which all is good.

Some faults nobody catches. They end the program with nothing but their wording.
-/

namespace PackageGate.CommandLine

open Disk (Path)

/-- The name under which the program speaks of itself. -/
def programName : String := "validate_package.py"

/-- How the program is used. -/
def usage : String :=
  s!"usage: {programName} [-h] [--checklist CHECKLIST] [--base-dir BASE_DIR] [--debug]"

/-- The lines of the help. -/
def help : List String :=
  [usage,
   "",
   "Pre-flight validation of a plugin package",
   "",
   "options:",
   "  -h, --help            show this help message and exit",
   "  --checklist CHECKLIST",
   "                        YAML checklist to use instead of the built-in one",
   "  --base-dir BASE_DIR   Directory the manifest paths are relative to (default: .)",
   "  --debug               Print diagnostics to stderr",
   "",
   "Exit codes:",
   "  0 - All checks passed",
   "  1 - One or more checks failed",
   "",
   "Examples:",
   "  ./scripts/validate_package.py                          # Built-in checklist",
   "  ./scripts/validate_package.py --checklist plugin.yaml  # Custom checklist",
   "        "]

/-- The lines about a mistake in the arguments. -/
def refusal (m : Mistake) : List String := [usage, s!"{programName}: error: {m.message}"]

/-- A fault that nobody catches. -/
inductive Crash where
  | nullInPath
  | valueless (f : Yaml.Fault)
  | unchecked (a : Schema.Abort)
  | unreadable (u : Unreadable)
  /-- Links run in a circle at a path. -/
  | linkLoop (path : Path)
  /-- The value of a switch is a separator, which is asked for a part that only paths have. -/
  | noPath (part : String)
  | markup (m : Markup.Mistake)
deriving Repr

/-- The wording of an aborted check that nothing catches. -/
def abortMessage : Schema.Abort → String
  | .lacking type operation => s!"'{type}' object has no attribute '{operation}'"
  | .noSchema m => m.message
  | other => other.message?.getD ""

/-- The wording of a fault. -/
def Crash.message : Crash → String
  | .nullInPath => "embedded null byte"
  | .valueless f => f.message
  | .unchecked a => abortMessage a
  | .unreadable u => u.message
  | .linkLoop path => s!"Symlink loop from {Text.quoted path.toString}"
  | .noPath part => s!"'list' object has no attribute '{part}'"
  | .markup m => m.message

/-- What the program prints, and its exit code. -/
structure Printed where
  exitCode : Nat
  output : List String
  errors : List String
deriving Repr, DecidableEq

/-- The marked-up texts that list the problems of a checklist. -/
def markProblems (problems : List String) : List (List Char) :=
  "[bold red]Checklist Errors:[/bold red]\n".toList ::
    problems.map (fun problem =>
      "  [red]• ".toList ++ Markup.escape problem.toList ++ "[/red]".toList) ++
    [[], "[bold red]💥 Validation not run: invalid checklist[/bold red]".toList]

/-- The lines that list the problems of a checklist. -/
def problemLines (colours : Bool) (problems : List String) :
    Except Markup.Mistake (List String) :=
  Markup.printAll colours (markProblems problems)

/-- The checklist that a request names, or the problems of the one in the file. -/
def chooseChecklist (disk : Disk) : Choice → Except Crash (Except (List String) Checklist)
  | .usual => .ok (.ok .builtIn)
  | .nothing => .error (.noPath "name")
  | .path text =>
    let path := Path.ofString text
    match Checklist.load disk path with
    | .ok checklist => .ok (.ok checklist)
    | .error (.rejected r) => .ok (.error (r.messages path))
    | .error .nullInPath => .error .nullInPath
    | .error (.valueless f) => .error (.valueless f)
    | .error (.unchecked a) => .error (.unchecked a)
    | .error (.unreadable u) => .error (.unreadable u)

/-- The base directory that a request names. One that is given is made canonical. -/
def chooseBase (disk : Disk) : Choice → Except Crash Path
  | .usual => .ok (Path.ofString ".")
  | .nothing => .error (.noPath "resolve")
  | .path text =>
    let path := Path.ofString text
    if path.hasNull then .error .nullInPath
    else (disk.canonical path).mapError .linkLoop

/-- Runs a validation and prints the report, and the notes if diagnostics are asked for. -/
def report (disk : Disk) (colours debug : Bool) (checklist : Checklist) (base : Path) :
    Except Crash Printed := do
  let (result, notes) ← (run disk checklist base).mapError fun _ => .nullInPath
  let errors ← (Diagnostics.lines debug notes).mapError .markup
  let output ← (Report.lines colours result).mapError .markup
  .ok ⟨result.exitCode, output, errors⟩

/-- Does what is requested. -/
def perform (disk : Disk) (colours : Bool) (r : Request) : Except Crash Printed := do
  match ← chooseChecklist disk r.checklist with
  | .error problems =>
    let output ← (problemLines colours problems).mapError .markup
    .ok ⟨1, output, []⟩
  | .ok checklist =>
    let base ← chooseBase disk r.baseDir
    report disk colours r.debug checklist base

/-- What the program does with its arguments. -/
def program (disk : Disk) (colours : Bool) (arguments : List String) : Except Crash Printed :=
  match read arguments with
  | .error mistake => .ok ⟨1, [], refusal mistake⟩
  | .ok .help => .ok ⟨0, help, []⟩
  | .ok (.request r) => perform disk colours r

/-- Whether diagnostics are asked for after the program has run: as its arguments say, unless they
are not read to the end. -/
def debugAfter (before : Bool) (arguments : List String) : Bool :=
  match read arguments with
  | .ok (.request r) => r.debug
  | _ => before

end PackageGate.CommandLine
