import PackageGate.Markup.Escape
import PackageGate.Markup.Print
import PackageGate.Validation.Result

/-!
# The report

The report names the checklist, tells the outcome for each file and each feature, and ends with a
banner. It is a list of *sentences*: a style with fixed words and texts of the user in between. Only
when a sentence is written as marked-up text are the user's texts escaped.
-/

namespace PackageGate

open Markup (Style)

/-- A part of a sentence. -/
inductive Phrase where
  /-- Words of the program. -/
  | fixed (text : String)
  /-- A text of the user, shown as it is. -/
  | given (text : String)
deriving Repr, DecidableEq

/-- A sentence in a style. -/
structure Sentence where
  style : Style
  phrases : List Phrase
deriving Repr, DecidableEq

namespace Report

/-- A part of a sentence as marked-up text. -/
def markPhrase : Phrase → List Char
  | .fixed text => text.toList
  | .given text => Markup.escape text.toList

/-- The tag that opens a style. -/
def openTag (s : Style) : List Char := '[' :: s.name.toList ++ [']']

/-- The tag that closes a style. -/
def closeTag (s : Style) : List Char := '[' :: '/' :: s.name.toList ++ [']']

/-- A sentence as marked-up text; no sentence is an empty line. -/
def mark : Option Sentence → List Char
  | none => []
  | some s => openTag s.style ++ s.phrases.flatMap markPhrase ++ closeTag s.style

/-- The sentences about one file. -/
def aboutFile (r : FileResult) : List Sentence :=
  match r.status with
  | .ok => [⟨.good, [.fixed "✅ ", .given r.path]⟩]
  | .missing => [⟨.bad, [.fixed "❌ Missing file: ", .given r.path]⟩]
  | .unreadable | .defects =>
    let heading := if r.status = .unreadable then "Unreadable file" else "Syntax issues in"
    ⟨.bad, [.fixed s!"❌ {heading} ", .given r.path, .fixed ":"]⟩ ::
      r.defects.map fun defect => ⟨.bad, [.fixed "   - ", .given defect]⟩

/-- The sentence about one feature. -/
def aboutFeature (f : Feature × Bool) : Sentence :=
  if f.2 then ⟨.good, [.fixed "✅ ", .given f.1.label]⟩
  else ⟨.bad, [.fixed "❌ Missing ", .given f.1.label]⟩

/-- The failures that occurred, with their numbers. -/
def summary (r : Result) : String :=
  let failures := (r.counts.filter (·.2 ≠ 0)).map fun kind => s!"{kind.2} {kind.1}"
  ", ".intercalate failures ++ (if r.featuresChecked then "" else ", feature checks skipped")

/-- The last sentence. -/
def banner (r : Result) : Sentence :=
  if r.allGood then
    ⟨.success, [.fixed "🎉 All validation checks passed! ✨ ", .given r.checklist.name,
      .fixed " implementation looks good!"]⟩
  else ⟨.failure, [.fixed s!"💥 Some validation checks failed: {summary r}"]⟩

/-- The sentences of the report, with empty lines between its parts. -/
def sentences (r : Result) : List (Option Sentence) :=
  [some ⟨.heading, [.fixed "🔍 Validating ", .given r.checklist.name,
      .fixed " implementation..."]⟩, none] ++
    (r.files.flatMap aboutFile).map some ++
    [none, some ⟨.heading, [.fixed "🧪 Checking core API features..."]⟩] ++
    (if r.featuresChecked then [] else
      [some ⟨.bad, [.fixed "❌ Feature checks skipped: primary file ",
        .given r.checklist.primaryFile, .fixed " is unavailable"]⟩]) ++
    (r.features.map aboutFeature).map some ++
    [none, some (banner r)]

/-- The lines of the report. -/
def lines (colours : Bool) (r : Result) : Except Markup.Mistake (List String) :=
  Markup.printAll colours ((sentences r).map mark)

end Report

end PackageGate
