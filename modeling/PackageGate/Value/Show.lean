import PackageGate.Value.Basic
import PackageGate.Number.Shortest
import PackageGate.Number.Whole
import PackageGate.Text.Quoted

/-!
# Values in messages

Messages show values in one line: texts quoted, lists in brackets, mappings and sets in braces,
pairs in parentheses, moments by their parts. A collection that contains itself is shown with dots
at the place where it comes up inside itself.

Whole numbers of more than 4300 decimal digits are not shown: writing them out is refused.
-/

namespace PackageGate

open Number (Binary64)

namespace Value

/-- Whether writing a whole number out is refused. -/
def exceedsDigitLimit (n : Int) : Bool := Nat.pow 10 Number.digitLimit ≤ n.natAbs

/-- A span of time by its days, seconds and microseconds, as messages show it. -/
def showSpan (seconds : Int) : String :=
  let days := seconds / 86400
  let rest := seconds % 86400
  let parts := (if days = 0 then [] else [s!"days={days}"]) ++
    (if rest = 0 then [] else [s!"seconds={rest}"])
  let body := if parts.isEmpty then "0" else ", ".intercalate parts
  s!"datetime.timedelta({body})"

/-- A day as messages show it. -/
def showDate (d : Date) : String := s!"datetime.date({d.year}, {d.month}, {d.day})"

/-- A moment as messages show it: seconds are left out if they are zero, and so is the distance
from universal time if unknown. -/
def showMoment (m : Moment) : String :=
  let parts := [m.date.year, m.date.month, m.date.day, m.hour, m.minute] ++
    (if m.microsecond ≠ 0 then [m.second, m.microsecond]
      else if m.second ≠ 0 then [m.second] else [])
  let zone := match m.offset with
    | none => []
    | some 0 => ["tzinfo=datetime.timezone.utc"]
    | some n => [s!"tzinfo=datetime.timezone({showSpan n})"]
  let args := ", ".intercalate (parts.map (fun n => toString n) ++ zone)
  s!"datetime.datetime({args})"

/-- The dots that stand for a collection inside itself. -/
def dots : Value → String
  | .dict _ => "\x7b...\x7d"
  | .set _ => "set(...)"
  | .pair _ _ => "(...)"
  | _ => "[...]"

mutual

/-- A value in one line, where `self` shows the references. -/
def showWith (self : Nat → String) : Value → String
  | .null => "None"
  | .bool b => if b then "True" else "False"
  | .int n => toString n
  | .float x => String.ofList x.text
  | .str s => Text.quoted s
  | .bytes data => String.ofList (Text.Quoted.encodeBytes data)
  | .date d => showDate d
  | .moment m => showMoment m
  | .list items => "[" ++ ", ".intercalate (showItems self items) ++ "]"
  | .dict entries => "\x7b" ++ ", ".intercalate (showEntries self entries) ++ "\x7d"
  | .set items =>
    if items.isEmpty then "set()"
    else "\x7b" ++ ", ".intercalate (showItems self items) ++ "\x7d"
  | .pair a b => "(" ++ showWith self a ++ ", " ++ showWith self b ++ ")"
  | .ref n => self n

/-- The items of a list, each in one line. -/
def showItems (self : Nat → String) : List Value → List String
  | [] => []
  | v :: rest => showWith self v :: showItems self rest

/-- The entries of a mapping, each as key and value. -/
def showEntries (self : Nat → String) : List (Value × Value) → List String
  | [] => []
  | (k, v) :: rest => (showWith self k ++ ": " ++ showWith self v) :: showEntries self rest

end

/-- A reference shown inside the references `active`. Each step opens one more cell, so there are
no more steps than cells. -/
def showRef (cells : Cells) : (steps : Nat) → (active : List Nat) → Nat → String
  | 0, _, n => dots (resolve cells (.ref n))
  | steps + 1, active, n =>
    if active.contains n then dots (resolve cells (.ref n))
    else showWith (showRef cells steps (n :: active)) (resolve cells (.ref n))

/-- A value in one line. -/
def display (cells : Cells) (v : Value) : String :=
  showWith (showRef cells (cells.size + 1) []) v

/-- A day by itself. -/
def plainDate (d : Date) : String :=
  String.ofList (Text.decimal 4 d.year ++ '-' :: Text.decimal 2 d.month ++ '-' ::
    Text.decimal 2 d.day)

/-- A moment by itself. -/
def plainMoment (m : Moment) : String :=
  let two := Text.decimal 2
  let time := two m.hour ++ ':' :: two m.minute ++ ':' :: two m.second
  let fraction := if m.microsecond = 0 then [] else '.' :: Text.decimal 6 m.microsecond
  let zone := match m.offset with
    | none => []
    | some n =>
      let a := n.natAbs
      let tail := if a % 60 = 0 then [] else ':' :: two (a % 60)
      (if n < 0 then '-' else '+') :: two (a / 3600) ++ ':' :: two (a / 60 % 60) ++ tail
  plainDate m.date ++ String.ofList (' ' :: time ++ fraction ++ zone)

/-- A value by itself, where texts, days and moments stand without quotes and names. -/
def plain (cells : Cells) : Value → String
  | .str s => s
  | .date d => plainDate d
  | .moment m => plainMoment m
  | v => display cells v

mutual

/-- Whether a value holds a whole number that is too long to be written out, where `self` tells it
of the references. -/
def tooLongWith (self : Nat → Bool) : Value → Bool
  | .int n => exceedsDigitLimit n
  | .list items | .set items => tooLongItems self items
  | .dict entries => tooLongEntries self entries
  | .pair a b => tooLongWith self a || tooLongWith self b
  | .ref n => self n
  | _ => false

/-- Whether one of the items is too long. -/
def tooLongItems (self : Nat → Bool) : List Value → Bool
  | [] => false
  | v :: rest => tooLongWith self v || tooLongItems self rest

/-- Whether one of the keys or values is too long. -/
def tooLongEntries (self : Nat → Bool) : List (Value × Value) → Bool
  | [] => false
  | (k, v) :: rest => tooLongWith self k || tooLongWith self v || tooLongEntries self rest

end

/-- The same of a reference, as `showRef` opens it. -/
def tooLongRef (cells : Cells) : (steps : Nat) → (active : List Nat) → Nat → Bool
  | 0, _, _ => false
  | steps + 1, active, n =>
    !active.contains n &&
      tooLongWith (tooLongRef cells steps (n :: active)) (resolve cells (.ref n))

/-- Whether a value cannot be shown because a number in it is too long. -/
def tooLong (cells : Cells) (v : Value) : Bool :=
  tooLongWith (tooLongRef cells (cells.size + 1) []) v

theorem tooLong_int_iff (cells : Cells) (n : Int) :
    tooLong cells (.int n) = true ↔ Nat.pow 10 Number.digitLimit ≤ n.natAbs := by
  rw [tooLong, tooLongWith, exceedsDigitLimit, decide_eq_true_iff]

end Value

end PackageGate
