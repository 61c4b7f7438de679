import PackageGate.Validation.Report
import PackageGate.Validation.Run

/-!
# Diagnostics

If diagnostics are asked for, the notes of a run are printed: a note in a sentence behind the word
`DEBUG`, or a heading with a table of keys and values below. The key and the value in a line of a
table are escaped one by one.
-/

namespace PackageGate.Diagnostics

open Markup (Style escape)

/-- The bracketed word in front of a diagnostic, as marked-up text. -/
def marker : String := "\\[DEBUG] "

/-- A line of diagnostics as marked-up text. -/
def faint (text : List Char) : List Char :=
  Report.openTag .faint ++ text ++ Report.closeTag .faint

/-- A sentence behind the marker. -/
def markSentence (text : String) : List Char := faint (marker.toList ++ escape text.toList)

/-- A heading behind the marker. -/
def markHeading (label : String) : List Char :=
  faint (marker.toList ++ escape label.toList ++ [':'])

/-- A line of a table. -/
def markEntry (key value : String) : List Char :=
  faint (List.replicate 8 ' ' ++ escape key.toList ++ [':', ' '] ++ escape value.toList)

/-- A table with its heading. -/
def markTable (label : String) (entries : List (String × String)) : List (List Char) :=
  markHeading label :: entries.map fun e => markEntry e.1 e.2

/-- A note as marked-up texts. -/
def markNote : Note → List (List Char)
  | .begun checklist base => markTable "Validation run"
      [("checklist", checklist.name), ("base_dir", base.toString),
       ("files", toString checklist.manifest.length),
       ("features", toString checklist.features.length)]
  | .absent entry path => [markSentence s!"{entry}: not found at {path}"]
  | .unreadable entry problem => [markSentence s!"{entry}: {problem.message}"]
  | .checked entry characters defects =>
    [markSentence s!"{entry}: {characters} chars, {defects} defect(s)"]
  | .skipped file status => [markSentence s!"Skipping feature checks: {file} is {status.word}"]

/-- The lines of the notes, if diagnostics are asked for. -/
def lines (enabled : Bool) (notes : List Note) : Except Markup.Mistake (List String) :=
  if enabled then Markup.printAll false (notes.flatMap markNote) else .ok []

end PackageGate.Diagnostics
