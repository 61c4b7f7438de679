import PackageGate.Text.CodePoint
import PackageGate.Validation.Run

/-!
# Surveys

A document can name surrogates by their escapes, so that an entry of a manifest need not be a text.
A survey is what a run does with such entries: it finds out what is at each of them, and looks for
the features in the text of the primary one. A run of a checklist, whose entries are texts, is the
survey of its plan.

A path is refused before the operating system sees it if it holds a code point without bytes or a
null character. That ends the survey, unless a failure is injected in place of the first question.
-/

namespace PackageGate

open Disk (Path Failure)

/-! ## What is asked -/

/-- Why a path never reaches the operating system. -/
inductive Refusal where
  /-- A code point has no bytes. -/
  | unencodable
  /-- A null character would end the path early. -/
  | null
deriving Repr, DecidableEq

/-- Why a path is refused, if it is. Its bytes are asked for first. -/
def Refusal.of? (path : Points) : Option Refusal :=
  if !path.all (·.isEncodable) then some .unencodable
  else if path.contains (.char '\x00') then some .null
  else none

/-- A disk as it is seen from a base directory: its answers on entries. -/
structure Outlook where
  base : Points
  /-- The failure that is in place of looking at an entry. -/
  injected : Points → Option Failure
  /-- Whether an entry leads to something. -/
  stat : Points → Except Failure Unit
  /-- The bytes of the file that an entry leads to. -/
  read : Points → Except Failure (List UInt8)

/-- What a survey works on: entries, the primary one among them, and what is made of a text. The
structural checks find defects in it, and the features are looked for in that of the primary entry.
Rules and features may hold surrogates, too, so that they come in as what they make of a text. -/
structure Plan (φ : Type) where
  entries : List Points
  primary : Points
  defectsIn : List Char → List String
  featuresIn : List Char → φ
  primary_mem : primary ∈ entries

/-! ## What is found -/

/-- What is found at an entry. -/
inductive Finding where
  | missing
  | unreadable (problem : Source.ReadProblem)
  | source (text : List Char) (defects : List String)
deriving Repr, DecidableEq

/-- The text that was read. -/
def Finding.text? : Finding → Option (List Char)
  | .source text _ => some text
  | _ => none

/-- What a survey finds: something at each entry, and the features if the primary one was read. -/
structure Survey (φ : Type) where
  files : List (Points × Finding)
  features : Option φ
deriving Repr

namespace Outlook

/-- The path of an entry, as it is spelled. -/
def pathOf (o : Outlook) (entry : Points) : Points :=
  if entry.head? = some (.char '/') then entry else o.base ++ .char '/' :: entry

/-- Looks at an entry. -/
def look (o : Outlook) (entry : Points) : Except Failure Unit :=
  match o.injected entry with
  | some failure => .error failure
  | none => o.stat entry

/-- A disk that answers all questions as if they were about one entry. -/
def answering (o : Outlook) (entry : Points) : Disk where
  stat _ := o.look entry
  read _ := o.read entry
  canonical path := .ok path
  intercepts _ _ := (o.injected entry).isSome

/-- What is at an entry. -/
def find (o : Outlook) (defectsIn : List Char → List String) (entry : Points) : Finding :=
  let path := Path.ofString entry.shown
  match Source.isThere (o.answering entry) path with
  | .error problem => .unreadable problem
  | .ok false => .missing
  | .ok true =>
    match Source.read (o.answering entry) path with
    | .error problem => .unreadable problem
    | .ok text => .source text (defectsIn text)

/-- Finds what is at an entry, if its path is not refused. -/
def check (o : Outlook) (defectsIn : List Char → List String) (entry : Points) :
    Except Refusal (Points × Finding) :=
  match Refusal.of? (o.pathOf entry), o.injected entry with
  | some refusal, none => .error refusal
  | _, _ => .ok (entry, o.find defectsIn entry)

/-- Surveys the entries of a plan. -/
def survey {φ : Type} (o : Outlook) (plan : Plan φ) : Except Refusal (Survey φ) := do
  let files ← plan.entries.mapM (o.check plan.defectsIn)
  let primary := files.find? (·.1 = plan.primary)
  .ok ⟨files, (primary.bind (·.2.text?)).map plan.featuresIn⟩

end Outlook

/-! ## Checklists -/

/-- A disk seen from a base directory. What is no text is taken as it is shown. -/
def Disk.outlook (disk : Disk) (base : Path) : Outlook where
  base := .ofString base.toString
  injected entry :=
    let path := base.join (Path.ofString entry.shown)
    match disk.intercepts .stat path, disk.stat path with
    | true, .error failure => some failure
    | _, _ => none
  stat entry := disk.stat (base.join (Path.ofString entry.shown))
  read entry := disk.read (base.join (Path.ofString entry.shown))

/-- What a run of a checklist works on. -/
def Checklist.plan (c : Checklist) : Plan (List (Feature × Bool)) where
  entries := c.manifest.map .ofString
  primary := .ofString c.primaryFile
  defectsIn := Source.defectMessages c.rules
  featuresIn text := Source.presence text c.features
  primary_mem := List.mem_map_of_mem c.primaryFile_mem

/-- The outcome for an entry at which something was found. -/
def Finding.result (entry : String) : Finding → FileResult
  | .missing => .absent entry
  | .unreadable problem => .ofProblem entry problem
  | .source text defects => ⟨entry, if defects.isEmpty then .ok else .defects, defects, some text⟩

/-- The result of a checklist whose plan was surveyed. -/
def Survey.result (c : Checklist) (found : Survey (List (Feature × Bool))) : Result where
  checklist := c
  files := found.files.map fun file => file.2.result file.1.shown
  features := found.features.getD []
  featuresChecked := found.features.isSome

end PackageGate
