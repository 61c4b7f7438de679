import PackageGate.Value.Show
import PackageGate.Value.Layout
import PackageGate.Text.Newline
import PackageGate.Text.Occurrence

/-!
# Schemas and what can be wrong with data

A schema is itself a document value: a truth value that allows all or nothing, or a mapping of
keywords. Checking data against it gives *violations*, each at a path into the data, or is *aborted*
where the schema cannot be made sense of.

Violations are reported in the order of their paths, where the parts of a path are compared as
texts, so that item 10 comes before item 2. Violations at the same path keep the order in which the
schema's keywords found them.
-/

namespace PackageGate.Schema

/-- One part of a path into data. -/
inductive Segment where
  | key (k : Value)
  | index (n : Nat)
deriving Repr, Inhabited

/-- What the data violate. -/
inductive Problem where
  /-- Nothing is allowed here. -/
  | notAllowed (data : Value)
  /-- The data have none of the types. -/
  | wrongType (data : Value) (types : List Value)
  /-- A required key is missing. -/
  | missing (name : Value)
  /-- Keys that are not allowed. -/
  | unexpected (keys : List Value)
  /-- A text or list without anything in it. -/
  | empty (data : Value)
  /-- A text or list that is too short. -/
  | short (data : Value)
  /-- A number that is too small. -/
  | small (data limit : Value)
deriving Repr

/-- A problem and the path to where it is. -/
structure Violation where
  path : List Segment
  problem : Problem
deriving Repr

/-- How a part of a schema is misused. -/
inductive Misuse where
  /-- A value of this type cannot be gone through. -/
  | notIterable (type : String)
  /-- A value of this type holds no others. -/
  | notContainer (type : String)
  /-- A value of this type is no key. -/
  | unhashable (type : String)
  /-- Values of these types have no order. -/
  | notComparable (left right : String)
  /-- A value of this type has no parts. -/
  | notSubscriptable (type : String)
  /-- A value of this type has no named parts. -/
  | notKeyed (type : String)
  /-- A bracket in the authority of a reference has no partner. -/
  | loneBracket
  /-- A part of a list is not named by a number. -/
  | notIndex (reason : Number.Whole.Fault)
  /-- A number is too long to be written out. -/
  | tooLong
deriving Repr, DecidableEq

/-- The wording of a misuse. -/
def Misuse.message : Misuse → String
  | .notIterable type => s!"'{type}' object is not iterable"
  | .notContainer type => s!"argument of type '{type}' is not iterable"
  | .unhashable type => s!"unhashable type: '{type}'"
  | .notComparable left right => s!"'<' not supported between instances of '{left}' and '{right}'"
  | .notSubscriptable type => s!"'{type}' object is not subscriptable"
  | .notKeyed type => match type with
    | "str" => "string indices must be integers, not 'str'"
    | "bytes" => "byte indices must be integers or slices, not str"
    | _ => s!"{type} indices must be integers or slices, not str"
  | .loneBracket => "Invalid IPv6 URL"
  | .notIndex reason => reason.message
  | .tooLong =>
    s!"Exceeds the limit ({Number.digitLimit} digits) for integer string conversion; " ++
      "use sys.set_int_max_str_digits() to increase the limit"

/-- Why a reference of a schema leads nowhere. -/
inductive Dangling where
  | pointer (fragment : String) (root : Value)
  | anchor (name : String) (root : Value)
  | badAnchor (name : String)
  | remote (reference : String)
deriving Repr

/-- The wording of a dangling reference. -/
def Dangling.message : Dangling → String
  | .pointer fragment root =>
    let hint := if fragment = "/" then
        ". The pointer '/' is a valid JSON Pointer but it points to an empty string property " ++
          "''. If you intended to point to the entire resource, you should use '#'."
      else ""
    s!"PointerToNowhere: {Text.quoted fragment} does not exist within {root.display #[]}" ++ hint
  | .anchor name root =>
    s!"NoSuchAnchor: {Text.quoted name} does not exist within {root.display #[]}"
  | .badAnchor name =>
    s!"InvalidAnchor: '#{name}' is not a valid anchor, neither as a plain name anchor nor as " ++
      s!"a JSON Pointer. You may have intended to use '#/{name}', as the slash is required " ++
      "*before each segment* of a JSON pointer."
  | .remote reference => s!"Unresolvable: {reference}"

/-- Why checking is aborted. -/
inductive Abort where
  /-- References that lead in a circle, without a step into the data. -/
  | endless
  | dangling (d : Dangling)
  | unknownType (type schema data : Value)
  | misuse (m : Misuse)
  /-- A part of a schema that is neither a mapping nor a truth value, and so lacks an operation.
  Nothing catches this. -/
  | lacking (type operation : String)
  /-- A whole schema that is neither a mapping nor a truth value, so that the check does not even
  begin. Nothing catches this either. -/
  | noSchema (m : Misuse)
deriving Repr

/-! ## What schemas are asked for -/

/-- The name of a value's type in messages. -/
def typeName : Value → String
  | .null => "NoneType"
  | .bool _ => "bool"
  | .int _ => "int"
  | .float _ => "float"
  | .str _ => "str"
  | .bytes _ => "bytes"
  | .date _ => "datetime.date"
  | .moment _ => "datetime.datetime"
  | .list _ | .ref _ => "list"
  | .dict _ => "dict"
  | .set _ => "set"
  | .pair _ _ => "tuple"

/-- Whether a value holds a key: a mapping its keys, a list its items, a text its parts. -/
def holds (v key : Value) : Except Abort Bool :=
  match v with
  | .dict entries => .ok (Value.hasKey key entries)
  | .list items | .set items => .ok (items.any (Value.sameKey · key))
  | .str s => match key with
    | .str k => .ok (Text.contains s k)
    | _ => .ok false
  | other => .error (.misuse (.notContainer (typeName other)))

/-- The values that a part of a schema goes through. -/
def iterate (v : Value) : Except Abort (List Value) :=
  match v with
  | .list items | .set items => .ok items
  | .dict entries => .ok (entries.map (·.1))
  | .str s => .ok (s.toList.map fun c => .str (String.ofList [c]))
  | .pair a b => .ok [a, b]
  | other => .error (.misuse (.notIterable (typeName other)))

/-! ## Messages -/

/-- A block of text with every line indented. -/
def indented (text : String) : String :=
  "\n".intercalate ((Text.splitLines text).map ("    " ++ ·))

/-- The wording of an unknown type. -/
def unknownTypeMessage (type schema data : Value) : String :=
  s!"Unknown type {type.display #[]} for validator with schema:\n" ++
    indented (Value.Layout.render schema) ++ "\n\nWhile checking instance:\n" ++
    indented (Value.Layout.render data)

/-- What is reported in place of violations, unless nothing catches it. -/
def Abort.message? : Abort → Option String
  | .endless => some "Data structure too deeply nested (recursion limit)"
  | .dangling d => some s!"Schema reference resolution failed: {d.message}"
  | .unknownType type schema data =>
    some s!"Unknown type in schema: {unknownTypeMessage type schema data}"
  | .misuse m => some s!"Invalid data structure: {m.message}"
  | .lacking _ _ | .noSchema _ => none

/-! ## The report -/

/-- A part of a path as text. -/
def Segment.text (cells : Cells) : Segment → String
  | .key k => k.plain cells
  | .index n => toString n

/-- Whether a part of a path cannot be written out because a number in it is too long. -/
def Segment.tooLong (cells : Cells) : Segment → Bool
  | .key k => k.tooLong cells
  | .index _ => false

/-- The order of texts by their characters. -/
def textLe : List Char → List Char → Bool
  | [], _ => true
  | _ :: _, [] => false
  | a :: s, b :: t => a < b || (a = b && textLe s t)

/-- The order of paths by the texts of their parts. -/
def pathLe : List (List Char) → List (List Char) → Bool
  | [], _ => true
  | _ :: _, [] => false
  | a :: s, b :: t => (textLe a b && a ≠ b) || (a = b && pathLe s t)

/-- The path of a violation as texts. -/
def Violation.texts (cells : Cells) (v : Violation) : List String :=
  v.path.map (·.text cells)

/-- Violations in the order of their paths, those at one path in the order found. -/
def sorted (cells : Cells) (found : List Violation) : List Violation :=
  found.mergeSort fun a b =>
    pathLe ((a.texts cells).map (·.toList)) ((b.texts cells).map (·.toList))

/-- Keys in the order of their texts. -/
def sortedKeys (cells : Cells) (keys : List Value) : List Value :=
  keys.mergeSort fun a b => textLe (a.plain cells).toList (b.plain cells).toList

/-- The wording of a problem. -/
def Problem.message (cells : Cells) : Problem → String
  | .notAllowed data => s!"False schema does not allow {data.display cells}"
  | .wrongType data types =>
    let names := ", ".intercalate (types.map (·.display cells))
    s!"{data.display cells} is not of type {names}"
  | .missing name => s!"{name.display cells} is a required property"
  | .unexpected keys =>
    let names := ", ".intercalate ((sortedKeys cells keys).map (·.display cells))
    let verb := if keys.length = 1 then "was" else "were"
    s!"Additional properties are not allowed ({names} {verb} unexpected)"
  | .empty data => s!"{data.display cells} should be non-empty"
  | .short data => s!"{data.display cells} is too short"
  | .small data limit =>
    s!"{data.display cells} is less than the minimum of {limit.display cells}"

/-- The values that the wording of a problem shows. -/
def Problem.shown : Problem → List Value
  | .notAllowed data | .empty data | .short data => [data]
  | .wrongType data types => data :: types
  | .missing name => [name]
  | .unexpected keys => keys
  | .small data limit => [data, limit]

/-- Whether a violation cannot be told because a number in its path or problem is too long. -/
def Violation.tooLong (cells : Cells) (v : Violation) : Bool :=
  v.path.any (·.tooLong cells) || v.problem.shown.any (·.tooLong cells)

/-- The line of a violation: what is checked, the path, and the problem. -/
def Violation.line (context : String) (cells : Cells) (v : Violation) : String :=
  let place := if v.path.isEmpty then "root" else " -> ".intercalate (v.texts cells)
  s!"{context}: {place}: {v.problem.message cells}"

end PackageGate.Schema
