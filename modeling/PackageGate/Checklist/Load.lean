import PackageGate.Checklist.Description
import PackageGate.Checklist.Shape
import PackageGate.Disk.Basic
import PackageGate.Text.Newline
import PackageGate.Yaml.Load

/-!
# Checklist files

A checklist file is read in five steps: the bytes are read from the disk, decoded, read as a
document, compared with the shape of checklist documents, and made into a checklist. Each step may
reject the file, and says why.

Two things are no rejection, but end the program: a path that no operating system takes, and a
scalar of the document without a value.
-/

namespace PackageGate

open Disk (Path Failure)

namespace Checklist

/-- Why a checklist file is rejected. -/
inductive Rejection where
  /-- There is no such file. -/
  | notFound
  /-- The bytes are not those of a text. -/
  | notText
  /-- The file cannot be read. -/
  | failed (f : Failure)
  /-- The text is no document, because of one of its characters. -/
  | unacceptable (c : Char) (position : Nat)
  /-- The text is no document. -/
  | malformed (e : Yaml.Error) (text : List Char)
  /-- The document is nested too deeply. -/
  | tooDeep
  /-- The document does not have the shape of a checklist. -/
  | misshapen (violations : List String)
  /-- The draft in the document is no checklist. -/
  | flawed (d : Draft)
deriving Repr

/-- The wordings of why the file at a path is rejected. -/
def Rejection.messages (path : Path) : Rejection → List String
  | .notFound => [s!"{path.name}: Checklist file not found: {path}"]
  | .notText => [s!"{path.name}: File is not valid UTF-8\n  Ensure file is text, not binary"]
  | .failed f => [s!"{path.name}: Cannot read file: {f.message path}"]
  | .unacceptable c position =>
    [s!"{path.name}: Invalid YAML\n  {Yaml.unacceptableMessage c position}"]
  | .malformed e text => [s!"{path.name}: Invalid YAML\n  {e.message text}"]
  | .tooDeep => [s!"{path.name}: Data structure too deeply nested (recursion limit)"]
  | .misshapen violations => violations
  | .flawed d => d.messages

/-- Why no checklist is loaded. -/
inductive LoadError where
  | rejected (r : Rejection)
  /-- The path holds a character that no path may hold. -/
  | nullInPath
  /-- A scalar of the document has no value. -/
  | valueless (f : Yaml.Fault)
  /-- The shape of checklists could not be checked. -/
  | unchecked (a : Schema.Abort)
  /-- The document has the shape of a checklist, but cannot be read as one. -/
  | unreadable (u : Unreadable)
deriving Repr

/-- The text of a checklist file. -/
def readText (disk : Disk) (path : Path) : Except Rejection (List Char) :=
  match disk.read path with
  | .error failure =>
    .error (if failure = .code .notFound then .notFound else .failed failure)
  | .ok bytes =>
    match Text.Utf8.decode bytes with
    | .error _ => .error .notText
    | .ok text => .ok (Text.unifyNewlines text)

/-- The document in the text of a checklist file. -/
def readDocument (text : List Char) : Except LoadError Yaml.Document :=
  match Yaml.load text with
  | .ok document => .ok document
  | .error (.unacceptable c position) => .error (.rejected (.unacceptable c position))
  | .error (.stopped (.malformed e)) => .error (.rejected (.malformed e text))
  | .error (.stopped (.fault f)) => .error (.valueless f)
  | .error (.stopped .tooDeep) => .error (.rejected .tooDeep)

/-- The checklist in a document, which is checked against the shape first. -/
def ofDocument (context : String) (document : Yaml.Document) : Except LoadError Checklist :=
  match Schema.report context document.cells shape document.root with
  | .error abort => .error (.unchecked abort)
  | .ok (line :: lines) => .error (.rejected (.misshapen (line :: lines)))
  | .ok [] =>
    match Draft.ofValue document.cells document.root with
    | .error u => .error (.unreadable u)
    | .ok draft =>
      match draft.check with
      | .ok checklist => .ok checklist
      | .error _ => .error (.rejected (.flawed draft))

/-- Loads the checklist in the file at a path. -/
def load (disk : Disk) (path : Path) : Except LoadError Checklist :=
  match disk.atPath .read path (readText disk path) with
  | .error _ => .error .nullInPath
  | .ok answer => do
    let text ← answer.mapError .rejected
    let document ← readDocument text
    ofDocument path.name document

end Checklist

end PackageGate
