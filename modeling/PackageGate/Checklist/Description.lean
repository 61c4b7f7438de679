import PackageGate.Checklist.Fields
import PackageGate.Schema.Check

/-!
# Descriptions of checklists

The value of a checklist document is read part by part: the rules first, then the name, the
manifest, the primary file and the features. Documents of the right shape are read without a fault;
what is wrong with others is found at the first part that cannot be read.

What is read is a *description*: it may have any values in the places of texts, and has problems of
the same kinds as a draft. A description in which all of them are texts is a draft.
-/

namespace PackageGate

/-- Why a document's value cannot be read as a checklist. -/
inductive Unreadable where
  | field (f : FieldFault)
  /-- A mapping lacks a key. -/
  | noKey (key : String)
  /-- The whole value is no mapping. -/
  | noMapping (type : String)
  /-- The rules are no mapping. -/
  | noRules (type : String)
  /-- A rule is not named by a text. -/
  | noRuleName
  /-- A value without items is in the place of a list. -/
  | notIterable (type : String)
  /-- A value without keys is in the place of a mapping. -/
  | noParts (type : String)
  /-- A sequence is in the place of a mapping. -/
  | notKeyed (type : String)
  /-- An entry of the manifest cannot be told apart from others. -/
  | unhashable (type : String)
  /-- A value is in the place of a text. -/
  | noText (type : String)
deriving Repr, DecidableEq

/-- The wording of what makes a value unreadable. -/
def Unreadable.message : Unreadable → String
  | .field f => f.message
  | .noKey key => Text.quoted key
  | .noMapping type => s!"'{type}' object has no attribute 'get'"
  | .noRules type =>
    s!"package_checklist.StructureRules() argument after ** must be a mapping, not {type}"
  | .noRuleName => "keywords must be strings"
  | .notIterable type => s!"'{type}' object is not iterable"
  | .noParts type => s!"'{type}' object is not subscriptable"
  | .notKeyed type => (Schema.Misuse.notKeyed type).message
  | .unhashable type => s!"unhashable type: '{type}'"
  | .noText type => s!"'{type}' object is not a text"

/-- A checklist as the value of a document describes it. -/
structure Description where
  name : Value
  manifest : List Value
  primaryFile : Value
  /-- The marker and the label of each feature. -/
  features : List (Value × Value)
  /-- The rules that are named. -/
  rules : List (String × Value)
deriving Repr

namespace Description

/-! ## Reading the parts -/

/-- The value under a key that has to be there. -/
def part (entries : List (Value × Value)) (key : String) : Except Unreadable Value :=
  match Value.lookup? key entries with
  | some v => .ok v
  | none => .error (.noKey key)

/-- The items of a value that is in the place of a list. -/
def itemsOf (cells : Cells) (v : Value) : Except Unreadable (List Value) :=
  match v with
  | .list items | .set items => .ok (items.map (·.resolve cells))
  | .dict entries => .ok (entries.map (·.1))
  | .str s => .ok (s.toList.map fun c => .str (String.ofList [c]))
  | .pair a b => .ok [a.resolve cells, b.resolve cells]
  | .bytes data => .ok (data.map fun b => .int b.toNat)
  | other => .error (.notIterable (Schema.typeName other))

/-- The names of the rules in a mapping, which have to be texts. -/
def ruleNames : List (Value × Value) → Except Unreadable (List (String × Value))
  | [] => .ok []
  | (.str name, v) :: rest => (ruleNames rest).map ((name, v) :: ·)
  | _ :: _ => .error .noRuleName

/-- The rules that the value of a document names. -/
def describedRules (cells : Cells) (entries : List (Value × Value)) :
    Except Unreadable (List (String × Value)) :=
  match (Value.lookup? "rules" entries).map (Value.resolve cells) with
  | none => .ok []
  | some (.dict rules) => do
    let named ← ruleNames rules
    -- all names are looked at, and no word
    match Rules.ofWords (named.map fun rule => (rule.1, "")) with
    | .error fault => .error (.field fault)
    | .ok _ => .ok (named.map fun rule => (rule.1, rule.2.resolve cells))
  | some other => .error (.noRules (Schema.typeName other))

/-- The marker and the label that an item gives. -/
def describedFeature (cells : Cells) (item : Value) : Except Unreadable (Value × Value) :=
  match item with
  | .dict entries => do
    let marker ← part entries "marker"
    let label ← part entries "label"
    .ok (marker.resolve cells, label.resolve cells)
  | .str _ | .bytes _ | .list _ | .pair _ _ => .error (.notKeyed (Schema.typeName item))
  | other => .error (.noParts (Schema.typeName other))

/-- Entries of a manifest have to be told apart, which not all values can be. -/
def toldApart : List Value → Except Unreadable Unit
  | [] => .ok ()
  | entry :: rest =>
    if entry.isHashable then toldApart rest
    else .error (.unhashable (Schema.typeName entry))

/-! ## The whole -/

/-- The description in the value of a document. -/
def ofValue (cells : Cells) (v : Value) : Except Unreadable Description :=
  match v.resolve cells with
  | .dict entries => do
    let rules ← describedRules cells entries
    let name ← part entries "name"
    let manifest ← part entries "manifest"
    let manifest ← itemsOf cells (manifest.resolve cells)
    let primaryFile ← part entries "primary_file"
    let features ← part entries "features"
    let features ← itemsOf cells (features.resolve cells)
    let features ← features.mapM (describedFeature cells)
    toldApart manifest
    .ok ⟨name.resolve cells, manifest, primaryFile.resolve cells, features, rules⟩
  | other => .error (.noMapping (Schema.typeName other))

/-- The value of a rule, which has its usual word if it is not named. -/
def rule (d : Description) (name usual : String) : Value := (d.rules.lookup name).getD (.str usual)

/-- Everything that keeps a description from being one of a checklist. Entries are compared as the
keys of a mapping are. -/
def problems (cells : Cells) (d : Description) : List Draft.Problem :=
  Draft.problemsOf Value.sameKey (·.plain cells) d.manifest d.primaryFile

/-- The wordings of a description's problems. -/
def messages (cells : Cells) (d : Description) : List String :=
  (d.problems cells).map (·.message (d.name.plain cells))

/-- The text that a value is. -/
def textOf : Value → Except Unreadable String
  | .str s => .ok s
  | other => .error (.noText (Schema.typeName other))

/-- The draft that a description of texts is. -/
def toDraft (d : Description) : Except Unreadable Draft := do
  let name ← textOf d.name
  let manifest ← d.manifest.mapM textOf
  let primaryFile ← textOf d.primaryFile
  let features ← d.features.mapM fun f => do
    let marker ← textOf f.1
    let label ← textOf f.2
    .ok ⟨marker, label⟩
  let words ← d.rules.mapM fun rule => do
    let word ← textOf rule.2
    .ok (rule.1, word)
  let rules ← (Rules.ofWords words).mapError .field
  .ok { name, manifest, primaryFile, features, rules }

end Description

/-- The draft in the value of a document. -/
def Draft.ofValue (cells : Cells) (v : Value) : Except Unreadable Draft := do
  let d ← Description.ofValue cells v
  d.toDraft

end PackageGate
