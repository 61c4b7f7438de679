import PackageGate.Schema.Basic
import PackageGate.Value.Size

/-!
# Places for schemas

Some keywords of a schema hold further schemas: one, a list of them, or a mapping to them. Whatever
stands at such a place is taken for a schema, and asked for the identifier that a schema may carry,
since identifiers change what references mean.

A reference that leads to no known place makes one look for identifiers in all of the schema before
it is given up. `survey` is that search. It finds nothing, but it meets everything that stands at a
place for a schema and cannot be one.
-/

namespace PackageGate.Schema

/-- The keywords whose value is a schema. -/
def schemaKeywords : List String :=
  ["additionalItems", "additionalProperties", "contains", "else", "if", "not", "propertyNames",
    "then"]

/-- The keywords whose value is a list of schemas. -/
def listKeywords : List String := ["allOf", "anyOf", "oneOf"]

/-- The keywords whose value is a mapping to schemas. -/
def groupKeywords : List String := ["definitions", "patternProperties", "properties"]

/-- The keywords whose value is a schema if it is a mapping. -/
def mappingKeywords : List String := ["items", "dependencies"]

/-- Whether the steps of a pointer lead to a place for a schema, where `mapping` tells whether a
mapping stands there. A step into a list has no name. -/
def isSchemaPlace (mapping : Bool) : List (Option String) → Bool
  | [] => true
  | step :: rest =>
    let among (names : List String) : Bool := step.any names.contains
    if mapping && among mappingKeywords then true
    else if among schemaKeywords then isSchemaPlace mapping rest
    else if among listKeywords || among groupKeywords then
      match rest with
      | [] => false
      | _ :: rest => isSchemaPlace mapping rest
    else false

/-- Asks a value for the identifier that a schema may carry. Besides mappings and truth values only
those can be asked that hold the word for a reference. -/
def askIdentifier (v : Value) : Except Abort Unit :=
  match v with
  | .bool _ | .dict _ => .ok ()
  | other => do
    if ← holds other (.str "$ref") then .ok () else .error (.lacking (typeName other) "get")

/-! ## The survey -/

/-- The values under some keywords, in the order of the keywords. -/
def valuesUnder (keywords : List String) (entries : List (Value × Value)) : List Value :=
  keywords.filterMap (Value.lookup? · entries)

/-- The values to which a mapping leads. -/
def mappedValues (v : Value) : Except Abort (List Value) :=
  match v with
  | .dict entries => .ok (entries.map (·.2))
  | other => .error (.lacking (typeName other) "values")

/-- The schemas for items: one for all, or one for each position. -/
def itemSchemas (entries : List (Value × Value)) : List Value :=
  match Value.lookup? "items" entries with
  | none | some .null => []
  | some (.list schemas) => schemas
  | some (.str s) => s.toList.map fun c => .str (String.ofList [c])
  | some schema => [schema]

/-- The schemas for keys that need others. There are none if the first of them is a list of keys. -/
def dependentSchemas (entries : List (Value × Value)) : Except Abort (List Value) :=
  match Value.lookup? "dependencies" entries with
  | none | some .null => .ok []
  | some dependencies => do
    match ← mappedValues dependencies with
    | .dict first :: rest => .ok (.dict first :: rest)
    | _ => .ok []

/-- What stands at the places for schemas in a schema. -/
def subschemas (entries : List (Value × Value)) : Except Abort (List Value) := do
  let listed ← (valuesUnder listKeywords entries).mapM iterate
  let grouped ← (valuesUnder groupKeywords entries).mapM mappedValues
  let dependent ← dependentSchemas entries
  .ok (valuesUnder schemaKeywords entries ++ listed.flatten ++ grouped.flatten ++
    itemSchemas entries ++ dependent)

/-- Looks through a value that is nested no deeper than the fuel, the last of its schemas first. -/
def surveyWithin : (fuel : Nat) → Value → Except Abort Unit
  | 0, _ | _ + 1, .bool _ => .ok ()
  | fuel + 1, .dict entries => do
    let schemas ← subschemas entries
    schemas.reverse.forM (surveyWithin fuel)
  | _ + 1, other => do
    askIdentifier other
    .error (.lacking (typeName other) "get")

/-- Looks for identifiers in all of a schema. -/
def survey (schema : Value) : Except Abort Unit := surveyWithin schema.depth schema

end PackageGate.Schema
