import PackageGate.Schema.Places
import PackageGate.Schema.Reference
import PackageGate.Text.Split
import PackageGate.Text.Utf8

/-!
# Following references

The fragment of a reference is empty, and then names the whole schema, or it is a *pointer* or the
name of an anchor. The parts of a pointer stand between slashes. Each is a key where the pointer
passes a mapping, and a position where it passes a list or a text. At every place for a schema, what
stands there is asked for its identifier, even if the pointer goes on.

There are no anchors here and no other documents. Such references are given up after a survey.
-/

namespace PackageGate.Schema

/-! ## Parts of a pointer -/

/-- A fragment with its percent escapes read; bytes that encode no character are replaced. -/
def unescaped (text : List Char) : List Char :=
  let rec bytes : List Char → List UInt8
    | '%' :: a :: b :: rest =>
      match Text.hexValue? a, Text.hexValue? b with
      | some high, some low => (high * 16 + low).toUInt8 :: bytes rest
      | _, _ => Text.Utf8.encodeChar '%' ++ bytes (a :: b :: rest)
    | c :: rest => Text.Utf8.encodeChar c ++ bytes rest
    | [] => []
  Text.Utf8.decodeReplacing (bytes text)

/-- A part of a pointer with its two escapes read. -/
def pointerKey (part : List Char) : String :=
  String.ofList (tilde '0' '~' (tilde '1' '/' part))
where
  /-- Reads one escape. -/
  tilde (code meaning : Char) : List Char → List Char
    | '~' :: c :: rest => if c = code then meaning :: tilde code meaning rest
      else '~' :: tilde code meaning (c :: rest)
    | c :: rest => c :: tilde code meaning rest
    | [] => []

/-- The item that a part of a pointer names by its position; a negative one counts from the end. -/
def item? (items : List Value) (part : List Char) : Except Number.Whole.Fault (Option Value) := do
  let n ← Number.Whole.ofText 10 part
  let position := if n < 0 then items.length + n else n
  .ok (if position < 0 then none else items[position.toNat]?)

/-! ## Following -/

/-- Follows the parts of a pointer into a value, where `steps` have led to it. A value at a place
for a schema is asked for its identifier on the way. -/
def follow (fragment : String) (root : Value) (steps : List (Option String)) :
    List (List Char) → Value → Except Abort Value
  | [], v => .ok v
  | part :: rest, v => do
    let byPosition (items : List Value) : Except Abort (Option String × Option Value) :=
      match item? items part with
      | .ok found => .ok (none, found)
      | .error reason => .error (.misuse (.notIndex reason))
    let (step, found) ← match v with
      | .dict entries =>
        let key := pointerKey part
        .ok (some key, Value.lookup? key entries)
      | .list items => byPosition items
      | .str s => byPosition (s.toList.map fun c => .str (String.ofList [c]))
      | other => .error (.misuse (.notSubscriptable (typeName other)))
    match found with
    | none => .error (.dangling (.pointer fragment root))
    | some next =>
      let steps := steps ++ [step]
      let mapping := match next with
        | .dict _ => true
        | _ => false
      if isSchemaPlace mapping steps then askIdentifier next
      follow fragment root steps rest next

/-- Why a value that is no text cannot be followed as a reference. -/
def notReference (v : Value) : Abort := .lacking (typeName v) "startswith"

/-- The part of a schema that a fragment names. -/
def part (root : Value) (fragment : List Char) : Except Abort Value :=
  match fragment with
  | [] => .ok root
  | '/' :: pointer =>
    follow (String.ofList fragment) root [] (Text.splitAt '/' (unescaped pointer)) root
  | name => do
    survey root
    .error (.dangling
      (if name.contains '/' then .badAnchor (String.ofList name)
        else .anchor (String.ofList name) root))

/-- The part of the schema that a reference leads to. -/
def target (root reference : Value) : Except Abort Value :=
  match reference with
  | .str text => do
    match ← Reference.ofString text with
    | .within fragment => part root fragment
    | .elsewhere =>
      survey root
      .error (.dangling (.remote text))
  | other => .error (notReference other)

end PackageGate.Schema
