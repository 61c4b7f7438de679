import PackageGate.Checklist.Basic

/-!
# Drafts given field by field

A draft may be put together from fields that are given by name. All fields but the rules have to be
given, and no others may be. A field that does not exist is found before one that is missing.

An existing draft may also be changed in some of its fields; then none is missing.
-/

namespace PackageGate

/-- What is wrong with a choice of named fields. -/
inductive FieldFault where
  /-- A record has no field of this name. -/
  | unknown (record field : String)
  /-- Fields of a record that are not given. -/
  | missing (record : String) (fields : List String)
deriving Repr, DecidableEq

/-- Quoted names in a row, the last two joined by "and". -/
def enumerated : List String → String
  | [] => ""
  | [a] => s!"'{a}'"
  | [a, b] => s!"'{a}' and '{b}'"
  | names =>
    let last := names.getLastD ""
    ", ".intercalate (names.dropLast.map fun n => s!"'{n}'") ++ s!", and '{last}'"

/-- The wording of a fault. -/
def FieldFault.message : FieldFault → String
  | .unknown record field => s!"{record}.__init__() got an unexpected keyword argument '{field}'"
  | .missing record fields =>
    let plural := if fields.length = 1 then "" else "s"
    s!"{record}.__init__() missing {fields.length} required positional argument{plural}: " ++
      enumerated fields

/-- Rules with the named words set, the others as they are. -/
def Rules.setAll (rules : Rules) : List (String × String) → Except FieldFault Rules
  | [] => .ok rules
  | (field, word) :: rest =>
    match field with
    | "type_keyword" => { rules with typeKeyword := word }.setAll rest
    | "sentinel_symbol" => { rules with sentinelSymbol := word }.setAll rest
    | "required_directive" => { rules with requiredDirective := word }.setAll rest
    | other => .error (.unknown "StructureRules" other)

/-- The rules of named words; words that are not named have their usual values. -/
def Rules.ofWords (words : List (String × String)) : Except FieldFault Rules :=
  ({} : Rules).setAll words

/-- A choice of fields of a draft, and the names of fields that drafts do not have. -/
structure Fields where
  name? : Option String := none
  manifest? : Option (List String) := none
  primaryFile? : Option String := none
  features? : Option (List Feature) := none
  rules? : Option Rules := none
  unknown : List String := []
deriving Repr, Inhabited

namespace Fields

/-- The names of the fields that are wanted but not given. -/
def missing (f : Fields) : List String :=
  (if f.name?.isNone then ["name"] else []) ++
    (if f.manifest?.isNone then ["manifest"] else []) ++
    (if f.primaryFile?.isNone then ["primary_file"] else []) ++
    (if f.features?.isNone then ["features"] else [])

/-- The draft with the given fields. -/
def draft (f : Fields) : Except FieldFault Draft :=
  match f.unknown with
  | field :: _ => .error (.unknown "Checklist" field)
  | [] =>
    match f.name?, f.manifest?, f.primaryFile?, f.features? with
    | some name, some manifest, some primaryFile, some features =>
      .ok { name, manifest, primaryFile, features, rules := f.rules?.getD {} }
    | _, _, _, _ => .error (.missing "Checklist" f.missing)

/-- The fields that are given, and those of the draft for all others. -/
def fill (f : Fields) (d : Draft) : Fields where
  name? := some (f.name?.getD d.name)
  manifest? := some (f.manifest?.getD d.manifest)
  primaryFile? := some (f.primaryFile?.getD d.primaryFile)
  features? := some (f.features?.getD d.features)
  rules? := some (f.rules?.getD d.rules)
  unknown := f.unknown

/-- A draft that is changed in known fields is a draft. -/
theorem draft_fill (f : Fields) (d : Draft) (h : f.unknown = []) :
    (f.fill d).draft = .ok {
      name := f.name?.getD d.name
      manifest := f.manifest?.getD d.manifest
      primaryFile := f.primaryFile?.getD d.primaryFile
      features := f.features?.getD d.features
      rules := f.rules?.getD d.rules } := by
  simp [draft, fill, h]

end Fields

end PackageGate
