import PackageGate.CommandLine.Program

/-!
# What the program will ask

Before the program runs, the answers that it needs are gathered from the machine. Which these are
follows from its arguments: the checklist file first, then the base directory, and with both of them
known the files of the manifest.
-/

namespace PackageGate.CommandLine

open Disk (Path)

/-- The path that a choice names. -/
def Choice.path? : Choice → Option Path
  | .path text => some (Path.ofString text)
  | .usual | .nothing => none

/-- The request in the arguments, if they hold one. -/
def request? (arguments : List String) : Option Request :=
  match read arguments with
  | .ok (.request r) => some r
  | _ => none

/-- The checklist file that is read. -/
def checklistFile? (arguments : List String) : Option Path :=
  (request? arguments).bind (·.checklist.path?)

/-- The base directory that is made canonical. -/
def baseDirectory? (arguments : List String) : Option Path :=
  (request? arguments).bind (·.baseDir.path?)

/-- The files that are looked at, once the checklist and the base directory are known. -/
def sourceFiles (disk : Disk) (arguments : List String) : List Path :=
  match request? arguments with
  | none => []
  | some r =>
    match chooseChecklist disk r.checklist, chooseBase disk r.baseDir with
    | .ok (.ok checklist), .ok base =>
      checklist.manifest.map fun entry => base.join (Path.ofString entry)
    | _, _ => []

end PackageGate.CommandLine
