import PackageGate.Schema.Pointer

/-!
# Checking data against a schema

Each keyword is checked by itself, in the order in which the schema lists them, and keywords without
a meaning here are skipped. A keyword says nothing about data of other types than its own. A
reference takes the place of the whole schema that it stands in, unless it is null: then it is a
keyword like the others, but one that cannot be followed.

Lengths count characters and items. A double without a fraction is a whole number; truth values are
no numbers.
-/

namespace PackageGate.Schema

open Number (Binary64)

/-! ## Types -/

/-- Whether data have the type of a name, unless nothing has that name. -/
def hasType? (name : String) (data : Value) : Option Bool :=
  match name with
  | "null" => some (match data with | .null => true | _ => false)
  | "boolean" => some (match data with | .bool _ => true | _ => false)
  | "integer" => some (match data with
    | .int _ => true
    | .float x => x.isIntegral
    | _ => false)
  | "number" => some (match data with | .int _ | .float _ => true | _ => false)
  | "string" => some (match data with | .str _ => true | _ => false)
  | "array" => some (match data with | .list _ => true | _ => false)
  | "object" => some (match data with | .dict _ => true | _ => false)
  | _ => none

/-- Whether the data have one of the types; the rest of the types is not looked at then. -/
def hasOneOf (schema data : Value) : List Value → Except Abort Bool
  | [] => .ok false
  | type :: rest =>
    match type with
    | .str name =>
      match hasType? name data with
      | some true => .ok true
      | some false => hasOneOf schema data rest
      | none => .error (.unknownType type schema data)
    | other =>
      if other.isHashable then .error (.unknownType type schema data)
      else .error (.misuse (.unhashable (typeName other)))

/-- The keyword for types: one name, or a list of names. -/
def checkType (cells : Cells) (schema data types : Value) : Except Abort (List Problem) := do
  let types ← match types with
    | .str _ => .ok [types]
    | other => iterate other
  if ← hasOneOf schema (data.resolve cells) types then .ok [] else .ok [.wrongType data types]

/-! ## Limits -/

/-- A limit as a number, if it is one. -/
def limit? : Value → Option (Sum Int Binary64)
  | .int n => some (.inl n)
  | .bool b => some (.inl (if b then 1 else 0))
  | .float x => some (.inr x)
  | _ => none

/-- Whether a whole number is less than a limit. -/
def intBelow (n : Int) (limit : Value) : Except Abort Bool :=
  match limit? limit with
  | some (.inl m) => .ok (n < m)
  | some (.inr x) => .ok (Binary64.intLt n x)
  | none => .error (.misuse (.notComparable "int" (typeName limit)))

/-- Whether a double is less than a limit. -/
def floatBelow (x : Binary64) (limit : Value) : Except Abort Bool :=
  match limit? limit with
  | some (.inl m) => .ok (x.ltInt m)
  | some (.inr y) => .ok (x.lt y)
  | none => .error (.misuse (.notComparable "float" (typeName limit)))

/-- The problem of data whose length is below a limit. -/
def checkLength (data : Value) (length : Nat) (limit : Value) : Except Abort (List Problem) := do
  if ← intBelow length limit then
    .ok [if Value.sameKey limit (.int 1) then .empty data else .short data]
  else .ok []

/-- The keyword for the least length of a text. -/
def checkMinLength (cells : Cells) (data limit : Value) : Except Abort (List Problem) :=
  match data.resolve cells with
  | .str s => checkLength data s.length limit
  | _ => .ok []

/-- The keyword for the least number of items. -/
def checkMinItems (cells : Cells) (data limit : Value) : Except Abort (List Problem) :=
  match data.resolve cells with
  | .list items => checkLength data items.length limit
  | _ => .ok []

/-- The keyword for the least number. -/
def checkMinimum (cells : Cells) (data limit : Value) : Except Abort (List Problem) := do
  let below ← match data.resolve cells with
    | .int n => intBelow n limit
    | .float x => floatBelow x limit
    | _ => .ok false
  .ok (if below then [.small data limit] else [])

/-! ## Keys -/

/-- The problems of required names that are missing. -/
def missingNames (entries : List (Value × Value)) : List Value → Except Abort (List Problem)
  | [] => .ok []
  | name :: rest =>
    if !name.isHashable then .error (.misuse (.unhashable (typeName name)))
    else do
      let more ← missingNames entries rest
      .ok (if Value.hasKey name entries then more else .missing name :: more)

/-- The keyword for required keys. -/
def checkRequired (cells : Cells) (data names : Value) : Except Abort (List Problem) :=
  match data.resolve cells with
  | .dict entries => do
    let names ← iterate names
    missingNames entries names
  | _ => .ok []

/-- The entries of data whose keys are not declared. -/
def undeclared (properties : Value) : List (Value × Value) →
    Except Abort (List (Value × Value))
  | [] => .ok []
  | (k, v) :: rest => do
    let declared ← holds properties k
    let more ← undeclared properties rest
    .ok (if declared then more else (k, v) :: more)

/-- Whether a value counts as yes where a truth value is wanted. -/
def isTruthy : Value → Bool
  | .null => false
  | .bool b => b
  | .int n => n ≠ 0
  | .float x => !x.same (.ofNat 0)
  | .str s => !s.isEmpty
  | .bytes data => !data.isEmpty
  | .list items | .set items => !items.isEmpty
  | .dict entries => !entries.isEmpty
  | _ => true

/-! ## The whole check -/

/-- Why a value that is neither a mapping nor a truth value cannot serve as a schema. One that holds
the word for the schema's own schema is asked for that first. -/
def notSchema (v : Value) : Abort :=
  match holds v (.str "$schema") with
  | .error abort => abort
  | .ok true => .misuse (.notKeyed (typeName v))
  | .ok false => .lacking (typeName v) "get"

/-- Problems of the data themselves, as violations at a path. -/
def here (path : List Segment) (problems : List Problem) : List Violation :=
  problems.map (⟨path, ·⟩)

/-- Checks data with a checker for parts, item by item. -/
def checkItems (check : Value → Nat → Value → Except Abort (List Violation)) (schema : Value) :
    Nat → List Value → Except Abort (List Violation)
  | _, [] => .ok []
  | n, item :: rest => do
    let found ← check schema n item
    let more ← checkItems check schema (n + 1) rest
    .ok (found ++ more)

/-- Checks items against schemas by position. -/
def checkPositions (check : Value → Nat → Value → Except Abort (List Violation)) :
    Nat → List Value → List Value → Except Abort (List Violation)
  | n, schema :: schemas, item :: items => do
    let found ← check schema n item
    let more ← checkPositions check (n + 1) schemas items
    .ok (found ++ more)
  | _, _, _ => .ok []

/-- Checks the declared properties that the data have. -/
def checkProperties (check : Value → Value → Value → Except Abort (List Violation))
    (entries : List (Value × Value)) : List (Value × Value) → Except Abort (List Violation)
  | [] => .ok []
  | (name, schema) :: rest => do
    let found ← match entries.find? (fun entry => Value.sameKey entry.1 name) with
      | some entry => check schema name entry.2
      | none => .ok []
    let more ← checkProperties check entries rest
    .ok (found ++ more)

/-- Checks entries against one schema. -/
def checkEntries (check : Value → Value → Value → Except Abort (List Violation)) (schema : Value) :
    List (Value × Value) → Except Abort (List Violation)
  | [] => .ok []
  | (k, v) :: rest => do
    let found ← check schema k v
    let more ← checkEntries check schema rest
    .ok (found ++ more)

/-- The violations found by one keyword, where `check` checks a part of the data, which a further
segment of the path leads to. -/
def checkKeyword (cells : Cells)
    (check : Value → Segment → Value → Except Abort (List Violation))
    (path : List Segment) (schema : Value) (keywords : List (Value × Value))
    (data : Value) (keyword argument : Value) : Except Abort (List Violation) :=
  match keyword with
  | .str "type" => (checkType cells schema data argument).map (here path)
  | .str "minLength" => (checkMinLength cells data argument).map (here path)
  | .str "minItems" => (checkMinItems cells data argument).map (here path)
  | .str "minimum" => (checkMinimum cells data argument).map (here path)
  | .str "required" => (checkRequired cells data argument).map (here path)
  | .str "properties" =>
    match data.resolve cells with
    | .dict entries =>
      match argument with
      | .dict properties =>
        checkProperties (fun s k v => check s (.key k) v) entries properties
      | other => .error (.lacking (typeName other) "items")
    | _ => .ok []
  | .str "additionalProperties" =>
    match data.resolve cells with
    | .dict entries => do
      let extra ← undeclared ((Value.lookup? "properties" keywords).getD (.dict [])) entries
      match argument with
      | .dict _ => checkEntries (fun s k v => check s (.key k) v) argument extra
      | other =>
        .ok (if isTruthy other || extra.isEmpty then []
          else here path [.unexpected (extra.map (·.1))])
    | _ => .ok []
  | .str "items" =>
    match data.resolve cells with
    | .list items =>
      let one (s : Value) (n : Nat) (v : Value) := check s (.index n) v
      match argument with
      | .list schemas => checkPositions one 0 schemas items
      | schema => checkItems one schema 0 items
    | _ => .ok []
  | .str "$ref" => .error (notReference argument)
  | _ => .ok []

/-- The violations found by the keywords of a schema, in their order. -/
def checkKeywords (one : Value → Value → Except Abort (List Violation)) :
    List (Value × Value) → Except Abort (List Violation)
  | [] => .ok []
  | (keyword, argument) :: rest => do
    let found ← one keyword argument
    let more ← checkKeywords one rest
    .ok (found ++ more)

/-- The violations of data at a path. The fuel is used up by the steps into the data and along
references; running out of it means that references lead in a circle. -/
def check (cells : Cells) (root : Value) :
    (fuel : Nat) → (path : List Segment) → (schema data : Value) →
      Except Abort (List Violation)
  | 0, _, _, _ => .error .endless
  | fuel + 1, path, schema, data =>
    match schema with
    | .bool true => .ok []
    | .bool false => .ok [⟨path.dropLast, .notAllowed data⟩]
    | .dict keywords =>
      match Value.lookup? "$ref" keywords with
      | none | some .null =>
        checkKeywords
          (checkKeyword cells (fun s segment v => check cells root fuel (path ++ [segment]) s v)
            path schema keywords data)
          keywords
      | some reference => do
        let found ← target root reference
        match found with
        | .bool true => .ok []
        | .bool false => .ok [⟨path, .notAllowed data⟩]
        | .dict _ => check cells root fuel path found data
        | other => .error (notSchema other)
    | other => do
      askIdentifier other
      .error (notSchema other)

/-- Enough fuel for every check that comes to an end: between two steps into the data each
reference of the schema can be followed once. -/
def fuelFor (schema data : Value) : Nat := (data.depth + 1) * (schema.weight + 2)

/-- Why a value that is neither a mapping nor a truth value cannot be checked against at all. -/
def notWholeSchema (v : Value) : Abort :=
  match v with
  | .str _ | .list _ => .lacking (typeName v) "get"
  | other => .noSchema (.notContainer (typeName other))

/-- The violations of data, in the order found. -/
def violations (cells : Cells) (schema data : Value) : Except Abort (List Violation) :=
  match schema with
  | .bool false => .ok [⟨[], .notAllowed data⟩]
  | .bool true | .dict _ => check cells schema (fuelFor schema data) [] schema data
  | other => .error (notWholeSchema other)

/-- Whether one of the violations shows a number that is too long to be written out. -/
def showsTooLong (cells : Cells) (found : List Violation) : Bool := found.any (·.tooLong cells)

/-- The lines about data that a schema does not allow, or the line about why the check was aborted.
No line means that the data are allowed. -/
def report (context : String) (cells : Cells) (schema data : Value) :
    Except Abort (List String) :=
  let aborted (a : Abort) : Except Abort (List String) :=
    match a.message? with
    | some message => .ok [s!"{context}: {message}"]
    | none => .error a
  match violations cells schema data with
  | .error a => aborted a
  | .ok found =>
    if showsTooLong cells found then aborted (.misuse .tooLong)
    else .ok ((sorted cells found).map (·.line context cells))

end PackageGate.Schema
