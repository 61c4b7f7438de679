import PackageGate.Text.Digit
import PackageGate.Text.Quoted

/-!
# Arguments

The command line knows four switches, two of which take a value. A long name may be shortened as
long as it fits one switch only, and a value may follow a long name behind an equals sign. What
begins with a dash and fits no switch is not understood, unless it looks like a negative number or
holds a space: then it counts as a value, like a single dash and everything behind a double dash.

Arguments are first told apart one by one, which may already fail. Then they are read from left to
right up to the first mistake or call for help. What is left over is a mistake in the end.
-/

namespace PackageGate.CommandLine

/-- The switches. -/
inductive Switch where
  | help
  | checklist
  | baseDir
  | debug
deriving Repr, DecidableEq

/-- The names of the switches, short and long, in the order in which they are searched. -/
def names : List (String × Switch) :=
  [("-h", .help), ("--help", .help), ("--checklist", .checklist), ("--base-dir", .baseDir),
   ("--debug", .debug)]

/-- A switch as mistakes name it. -/
def Switch.title : Switch → String
  | .help => "-h/--help"
  | .checklist => "--checklist"
  | .baseDir => "--base-dir"
  | .debug => "--debug"

/-- Whether a switch takes a value. -/
def Switch.takesValue : Switch → Bool
  | .checklist | .baseDir => true
  | .help | .debug => false

/-- What is wrong with the arguments. -/
inductive Mistake where
  /-- A shortened name fits several switches. -/
  | ambiguous (argument : String) (fitting : List String)
  /-- A switch without a value is given one. -/
  | ignoredValue (s : Switch) (value : String)
  /-- A switch lacks its value. -/
  | noValue (s : Switch)
  /-- Arguments that are left over. -/
  | leftOver (arguments : List String)
deriving Repr, DecidableEq

/-- The wording of a mistake. -/
def Mistake.message : Mistake → String
  | .ambiguous argument fitting =>
    let names := ", ".intercalate fitting
    s!"ambiguous option: {argument} could match {names}"
  | .ignoredValue s value =>
    s!"argument {s.title}: ignored explicit argument {Text.quoted value}"
  | .noValue s => s!"argument {s.title}: expected one argument"
  | .leftOver arguments =>
    let rest := " ".intercalate arguments
    s!"unrecognized arguments: {rest}"

/-! ## Telling arguments apart -/

/-- What an argument is by itself. -/
inductive Word where
  /-- A value. -/
  | value (text : String)
  /-- The double dash behind which everything is a value. -/
  | separator
  /-- A switch under one of its names, perhaps with a value. -/
  | switch (s : Switch) (name : String) (value : Option String)
  /-- Something with a dash that fits no switch. -/
  | unknown (text : String)
deriving Repr, DecidableEq

/-- Whether a text is a number with a minus sign, perhaps with a line feed behind it. -/
def isNegativeNumber (text : List Char) : Bool :=
  let isDigit (c : Char) := (Text.digitValue? c).isSome
  let isNumber (digits : List Char) :=
    (!digits.isEmpty && digits.all isDigit) ||
      (match digits.dropWhile isDigit with
        | '.' :: decimals => !decimals.isEmpty && decimals.all isDigit
        | _ => false)
  match text with
  | '-' :: digits =>
    isNumber digits || (digits.getLast? = some '\n' && isNumber digits.dropLast)
  | _ => false

/-- Cuts a text at its first equals sign. -/
def cutAtEquals (text : List Char) : List Char × Option (List Char) :=
  (text.takeWhile (· ≠ '='),
    match text.dropWhile (· ≠ '=') with
    | [] => none
    | _ :: value => some value)

/-- The switches that an argument fits, each with the name that it stands for and its value. -/
def fitting (text : List Char) : List (Switch × String × Option String) :=
  match text with
  | '-' :: '-' :: _ =>
    let (name, value) := cutAtEquals text
    (names.filter fun n => name.isPrefixOf n.1.toList).map fun n =>
      (n.2, n.1, value.map String.ofList)
  | '-' :: c :: rest =>
    names.filterMap fun n =>
      if n.1.toList = ['-', c] then some (n.2, n.1, some (String.ofList rest))
      else if text.isPrefixOf n.1.toList then some (n.2, n.1, none)
      else none
  | _ => []

/-- Tells what an argument is. -/
def classify (argument : String) : Except Mistake Word :=
  let text := argument.toList
  if text.head? ≠ some '-' || text.length = 1 then .ok (.value argument)
  else
    let (name, value) := cutAtEquals text
    match names.lookup argument, names.lookup (String.ofList name), value with
    | some s, _, _ => .ok (.switch s argument none)
    | none, some s, some value => .ok (.switch s (String.ofList name) (some (String.ofList value)))
    | _, _, _ =>
      match fitting text with
      | [(s, name, value)] => .ok (.switch s name value)
      | [] =>
        if isNegativeNumber text || text.contains ' ' then .ok (.value argument)
        else .ok (.unknown argument)
      | several => .error (.ambiguous argument (several.map (·.2.1)))

/-- Tells what the arguments are. -/
def classifyAll : List String → Except Mistake (List Word)
  | [] => .ok []
  | argument :: rest =>
    if argument = "--" then .ok (.separator :: rest.map .value)
    else do
      let word ← classify argument
      let more ← classifyAll rest
      .ok (word :: more)

/-! ## Reading -/

/-- The value of a switch. -/
inductive Choice where
  /-- The switch is not there. -/
  | usual
  /-- The value is a separator, which stands for no value at all. -/
  | nothing
  /-- The value is a path. -/
  | path (text : String)
deriving Repr, DecidableEq

/-- What is asked for. -/
structure Request where
  checklist : Choice := .usual
  baseDir : Choice := .usual
  debug : Bool := false
deriving Repr, DecidableEq

/-- How reading the arguments ends, unless with a mistake. -/
inductive Reading where
  | help
  | request (r : Request)
deriving Repr, DecidableEq

/-- The request with the value of a switch set. -/
def Request.set (r : Request) (s : Switch) (value : String) : Request :=
  let choice : Choice := if value = "--" then .nothing else .path value
  match s with
  | .checklist => { r with checklist := choice }
  | .baseDir => { r with baseDir := choice }
  | .help | .debug => r

/-- The letters behind the short name have to be short names themselves, and the only one there is
calls for help. -/
def readLetters (value : List Char) : Except Mistake Reading :=
  match value with
  | [] => .ok .help
  | c :: rest =>
    if c = 'h' then readLetters rest else .error (.ignoredValue .help (String.ofList (c :: rest)))

/-- Reads the words from left to right, where `left` holds those that were left over, the last
first. -/
def readWords (r : Request) (left : List String) : List Word → Except Mistake Reading
  | [] => if left.isEmpty then .ok (.request r) else .error (.leftOver left.reverse)
  | .value text :: rest => readWords r (text :: left) rest
  | .separator :: rest => readWords r ("--" :: left) rest
  | .unknown text :: rest => readWords r (text :: left) rest
  | .switch s name (some value) :: rest =>
    if s.takesValue then readWords (r.set s value) left rest
    else if name = "-h" && !value.isEmpty then readLetters value.toList
    else .error (.ignoredValue s value)
  | .switch s _ none :: rest =>
    match s with
    | .help => .ok .help
    | .debug => readWords { r with debug := true } left rest
    | .checklist | .baseDir =>
      match rest with
      | .value text :: rest => readWords (r.set s text) left rest
      | _ => .error (.noValue s)

/-- Reads the arguments. -/
def read (arguments : List String) : Except Mistake Reading := do
  let words ← classifyAll arguments
  readWords {} [] words

end PackageGate.CommandLine
