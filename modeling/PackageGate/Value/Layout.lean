import PackageGate.Value.Show
import PackageGate.Text.Blank

/-!
# Values over several lines

A value that is too wide for one line is laid out: the entries of a mapping and the items of a list
go on lines of their own, indented to their opening bracket, and long texts are cut between words.
What fits stays on its line.

The room of a value depends on its indentation and on the closing brackets and commas that still
have to fit behind it, the *allowance*.
-/

namespace PackageGate

namespace Value.Layout

/-- The width that lines are kept to. -/
def width : Nat := 72

/-- Cuts a text behind each run of blanks. -/
def words (text : List Char) : List (List Char) :=
  let step (c : Char) : List (List Char) → List (List Char)
    | (d :: word) :: more =>
      -- a blank before something else ends a word
      if Text.isBlank c && !Text.isBlank d then [c] :: (d :: word) :: more
      else (c :: d :: word) :: more
    | more => [c] :: more
  text.foldr step []

/-- Puts words together as long as their quoted form has room; the last line of all must leave
the allowance free. -/
def fill (room allowance : Nat) (isLast : Bool) :
    List (List Char) → (current : List Char) → List String
  | [], current => if current.isEmpty then [] else [Text.quoted (String.ofList current)]
  | word :: rest, current =>
    let candidate := current ++ word
    let limit := if rest.isEmpty && isLast then room - allowance else room
    if limit < (Text.quoted (String.ofList candidate)).length then
      let done := if current.isEmpty then [] else [Text.quoted (String.ofList current)]
      done ++ fill room allowance isLast rest word
    else fill room allowance isLast rest candidate

/-- Whether a line ends with this character, where `next` follows. -/
def endsLine (c : Char) (next : Option Char) : Bool :=
  if c = '\r' then next ≠ some '\n'
  else c = '\n' || c = '\x0b' || c = '\x0c' || ('\x1c' ≤ c && c ≤ '\x1e') || c = '\x85'
    || c = '\u2028' || c = '\u2029'

/-- The lines of a text, each with its line end. -/
def keepEnds : List Char → List (List Char)
  | [] => []
  | c :: rest =>
    if endsLine c rest.head? then [c] :: keepEnds rest
    else match keepEnds rest with
      | [] => [[c]]
      | line :: more => (c :: line) :: more

/-- The quoted pieces of a long text. -/
def pieces (room allowance : Nat) : List (List Char) → List String
  | [] => []
  | line :: rest =>
    let shown := Text.quoted (String.ofList line)
    let isLast := rest.isEmpty
    let limit := if isLast then room - allowance else room
    let here := if shown.length ≤ limit then [shown] else fill room allowance isLast (words line) []
    here ++ pieces room allowance rest

/-- A long text over several lines; at the outermost level it stands in parentheses. -/
def layoutText (s : String) (indent allowance : Nat) (outermost : Bool) : String :=
  let (indent, allowance) := if outermost then (indent + 1, allowance + 1) else (indent, allowance)
  let parts := pieces (width - indent) allowance (keepEnds s.toList)
  match parts with
  | [one] => one
  | _ =>
    let gap := "\n" ++ String.ofList (List.replicate indent ' ')
    let body := gap.intercalate parts
    if outermost then "(" ++ body ++ ")" else body

mutual

/-- A value laid out at an indentation. -/
def layout (v : Value) (indent allowance : Nat) (outermost : Bool) : String :=
  let oneLine := display #[] v
  if oneLine.length + indent + allowance ≤ width then oneLine
  else match v with
    | .dict entries =>
      "\x7b" ++ layoutEntries entries (indent + 1) (allowance + 1) ++ "\x7d"
    | .list items => "[" ++ layoutItems items (indent + 1) (allowance + 1) ++ "]"
    | .str s => if s.isEmpty then oneLine else layoutText s indent allowance outermost
    | _ => oneLine

/-- The items of a list, one below the other. -/
def layoutItems (items : List Value) (indent allowance : Nat) : String :=
  match items with
  | [] => ""
  | [v] => layout v indent allowance false
  | v :: rest =>
    layout v indent 1 false ++ ",\n" ++ String.ofList (List.replicate indent ' ') ++
      layoutItems rest indent allowance

/-- The entries of a mapping, one below the other. -/
def layoutEntries (entries : List (Value × Value)) (indent allowance : Nat) : String :=
  match entries with
  | [] => ""
  | [(k, v)] =>
    let key := display #[] k
    key ++ ": " ++ layout v (indent + key.length + 2) allowance false
  | (k, v) :: rest =>
    let key := display #[] k
    key ++ ": " ++ layout v (indent + key.length + 2) 1 false ++ ",\n" ++
      String.ofList (List.replicate indent ' ') ++ layoutEntries rest indent allowance

end

/-- A value, over several lines if it has to be. -/
def render (v : Value) : String := layout v 0 0 true

end Value.Layout

end PackageGate
