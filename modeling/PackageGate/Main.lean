import PackageGate.CommandLine.Questions
import PackageGate.CommandLine.Session
import PackageGate.Disk.Recorded

/-!
# The command line

Gathers the answers that the program needs from the machine, runs it on them, and prints what it
says.
-/

namespace PackageGate.CommandLine

open Disk (Path Failure Recording Canonical)

/-- The failure code in a word of the machine, which may hold it with a minus sign. -/
def codeOf (word : UInt32) : Disk.Code :=
  if word < 0x80000000 then ⟨word.toNat⟩ else ⟨(-word).toNat⟩

/-- The failure that an error of the machine reports. -/
def failureOf (e : IO.Error) : Failure :=
  match e with
  | .alreadyExists _ code _ | .otherError code _ | .resourceBusy code _ | .resourceVanished code _
  | .unsupportedOperation code _ | .hardwareFault code _ | .unsatisfiedConstraints code _
  | .illegalOperation code _ | .protocolError code _ | .timeExpired code _ | .interrupted _ code _
  | .noFileOrDirectory _ code _ | .invalidArgument _ code _ | .permissionDenied _ code _
  | .resourceExhausted _ code _ | .inappropriateType _ code _ | .noSuchThing _ code _ =>
    .code (codeOf code)
  | .unexpectedEof => .worded "unexpected end of file"
  | .userError message => .worded message

/-- Reads the file at a path. -/
def readFrom (path : Path) : IO Recording := do
  try
    let bytes ← IO.FS.readBinFile path.toString
    return ⟨path, .ok bytes.toList⟩
  catch e => return ⟨path, .error (failureOf e)⟩

/-- Asks where a path leads to. A path that leads nowhere is only made absolute. -/
def canonicalFrom (path : Path) : IO Canonical := do
  let here ← IO.currentDir
  try
    let there ← IO.FS.realPath path.toString
    return ⟨path, (Path.ofString s!"{here}").join (Path.ofString s!"{there}")⟩
  catch _ => return ⟨path, (Path.ofString s!"{here}").join path⟩

/-- Gathers the answers that the program needs. -/
def gather (arguments : List String) : IO Disk := do
  let first ← (checklistFile? arguments).toList.mapM readFrom
  let canonicals ← (baseDirectory? arguments).toList.mapM canonicalFrom
  let files := sourceFiles (Disk.ofAnswers first canonicals) arguments
  let more ← files.mapM readFrom
  return Disk.ofAnswers (first ++ more) canonicals

end PackageGate.CommandLine

/-- Runs the program with the arguments of the command line. -/
def main (arguments : List String) : IO UInt32 := do
  let disk ← PackageGate.CommandLine.gather arguments
  let session : PackageGate.CommandLine.Session := ⟨disk, false, false⟩
  let printing := (session.main arguments).2
  printing.errors.forM IO.eprintln
  printing.output.forM IO.println
  match printing.ending with
  | .error crash =>
    IO.eprintln crash.message
    return 1
  | .ok code => return code.toUInt32
