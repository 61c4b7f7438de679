import PackageGate.Number.Binary64

/-!
# Document values

What a document denotes: scalars, lists, mappings that keep the order of their keys, sets and
pairs. Most documents are trees, and then a value is a plain tree too.

A document may also contain itself, through an anchor that is used below its own node. The
collections of such a document are numbered, each occurrence is a reference `.ref n`, and a table,
the *cells*, tells what the numbers stand for. A document without such a loop has no cells and no
references. `resolve` sees through a reference, so that both kinds of documents are read alike.
-/

namespace PackageGate

open Number (Binary64)

/-- A day of the calendar. -/
structure Date where
  year : Nat
  month : Nat
  day : Nat
deriving Repr, DecidableEq, Inhabited

/-- A day with a time and, where known, the distance from universal time in seconds. -/
structure Moment where
  date : Date
  hour : Nat
  minute : Nat
  second : Nat
  microsecond : Nat
  offset : Option Int
deriving Repr, DecidableEq, Inhabited

/-- What a document, or a part of it, denotes. -/
inductive Value where
  | null
  | bool (b : Bool)
  | int (n : Int)
  | float (x : Binary64)
  | str (s : String)
  | bytes (data : List UInt8)
  | date (d : Date)
  | moment (m : Moment)
  | list (items : List Value)
  | dict (entries : List (Value × Value))
  | set (items : List Value)
  | pair (first second : Value)
  | ref (n : Nat)
deriving Repr, Inhabited

/-- What the references of a document stand for. -/
abbrev Cells := Array Value

namespace Value

/-- Sees through a reference. -/
def resolve (cells : Cells) : Value → Value
  | .ref n => (cells[n]?).getD .null
  | v => v

/-- The days before the first of a month in a year that starts in March. -/
private def daysBeforeMonth (m : Nat) : Nat := (153 * ((m + 9) % 12) + 2) / 5

/-- The number of a day, counted along the calendar. -/
def dayNumber (d : Date) : Int :=
  let year : Nat := if d.month ≤ 2 then d.year - 1 else d.year
  (365 * year + year / 4 - year / 100 + year / 400 + daysBeforeMonth d.month + d.day : Nat)

/-- The instant of a moment with a known offset, in microseconds. -/
def instant? (m : Moment) : Option Int :=
  m.offset.map fun offset =>
    ((dayNumber m.date * 24 + m.hour) * 60 + m.minute) * 60000000 +
      (m.second * 1000000 + m.microsecond : Nat) - offset * 1000000

/-- The number that a number or truth value is equal to as a key. -/
private def wholeKey? : Value → Option Int
  | .bool b => some (if b then 1 else 0)
  | .int n => some n
  | .float x => x.toInt?
  | _ => none

/-- Whether two scalars are the same key of a mapping: whole numbers, doubles and truth values are
compared as numbers, and moments with a known offset as instants. -/
def sameKey (a b : Value) : Bool :=
  match wholeKey? a, wholeKey? b with
  | some m, some n => m = n
  | some _, none | none, some _ => false
  | none, none =>
    match a, b with
    | .null, .null => true
    | .float x, .float y => x = y
    | .str s, .str t => s = t
    | .bytes s, .bytes t => s = t
    | .date d, .date e => d = e
    | .moment m, .moment n =>
      match instant? m, instant? n with
      | some s, some t => s = t
      | none, none => m = n
      | _, _ => false
    | _, _ => false

/-- The entries with one key set: in place if the key is there, which keeps its first spelling, at
the end if not. -/
def putEntry (key value : Value) : List (Value × Value) → List (Value × Value)
  | [] => [(key, value)]
  | (k, v) :: rest =>
    if sameKey k key then (k, value) :: rest else (k, v) :: putEntry key value rest

/-- The keys with one more key, unless it is there. -/
def putKey (key : Value) : List Value → List Value
  | [] => [key]
  | k :: rest => if sameKey k key then k :: rest else k :: putKey key rest

/-- The value under a textual key. -/
def lookup? (key : String) : List (Value × Value) → Option Value
  | [] => none
  | (.str k, v) :: rest => if k = key then some v else lookup? key rest
  | _ :: rest => lookup? key rest

/-- Whether a key occurs. -/
def hasKey (key : Value) (entries : List (Value × Value)) : Bool :=
  entries.any fun entry => sameKey entry.1 key

/-- Whether a value can be a key of a mapping: the scalars, and pairs of such. -/
def isHashable : Value → Bool
  | .list _ | .dict _ | .set _ | .ref _ => false
  | .pair a b => a.isHashable && b.isHashable
  | _ => true

end Value

end PackageGate
