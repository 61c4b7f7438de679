import PackageGate.Number.Whole

/-!
# Tags

The tag of a node says what kind of value it denotes. Some tags are known, all others are only
names. A plain scalar without a tag is given one by its text, where truth values, numbers in many
notations, days and moments, the null value and two special words are told from plain text.

The notations are anchored at both ends of the text; as an exception, one line feed may follow.
-/

namespace PackageGate.Yaml

/-- The tags of nodes. -/
inductive Tag where
  | null
  | bool
  | int
  | float
  | binary
  | timestamp
  | omap
  | pairs
  | set
  | str
  | seq
  | map
  | merge
  | value
  | other (name : String)
deriving Repr, DecidableEq

namespace Tag

/-- What the names of the common tags begin with. -/
def space : String := "tag:yaml.org,2002:"

/-- The full name of a tag. -/
def name : Tag → String
  | .null => space ++ "null"
  | .bool => space ++ "bool"
  | .int => space ++ "int"
  | .float => space ++ "float"
  | .binary => space ++ "binary"
  | .timestamp => space ++ "timestamp"
  | .omap => space ++ "omap"
  | .pairs => space ++ "pairs"
  | .set => space ++ "set"
  | .str => space ++ "str"
  | .seq => space ++ "seq"
  | .map => space ++ "map"
  | .merge => space ++ "merge"
  | .value => space ++ "value"
  | .other name => name

/-- The common tags. -/
def common : List Tag :=
  [.null, .bool, .int, .float, .binary, .timestamp, .omap, .pairs, .set, .str, .seq, .map, .merge,
    .value]

/-- The tag with a full name. -/
def ofName (s : String) : Tag := (common.find? (·.name = s)).getD (.other s)

end Tag

/-! ## Notations -/

/-- Whether a text is over, but for one line feed. -/
def isOver (text : List Char) : Bool := text.isEmpty || text = ['\n']

/-- Whether a text is one of the words. -/
def isOneOf (words : List String) (text : List Char) : Bool :=
  words.any fun w => text = w.toList || text = w.toList ++ ['\n']

/-- Whether a character is a digit or an underscore. -/
def isDigitOrBar (c : Char) : Bool := Text.isAsciiDigit c || c = '_'

/-- The text behind one or more groups of a colon and a number below sixty, if it starts so. -/
def sixties : (fuel : Nat) → List Char → Option (List Char)
  | 0, _ => none
  | fuel + 1, text =>
    match text with
    | ':' :: a :: rest =>
      if !Text.isAsciiDigit a then none
      else
        let after := match rest with
          | b :: more => if a ≤ '5' && Text.isAsciiDigit b then more else rest
          | [] => rest
        match after with
        | ':' :: _ => sixties fuel after
        | _ => some after
    | _ => none

/-- Whether a text is over, or an exponent with a sign and then over. -/
def isExponent : List Char → Bool
  | e :: sign :: rest =>
    if (e = 'e' || e = 'E') && (sign = '+' || sign = '-') then
      let after := rest.dropWhile Text.isAsciiDigit
      after.length < rest.length && isOver after
    else isOver (e :: sign :: rest)
  | text => isOver text

/-- Whether a text is a whole number: binary, octal, decimal, hexadecimal, or in base sixty. -/
def isWhole (text : List Char) : Bool :=
  match Number.unsigned text with
  | '0' :: 'b' :: rest =>
    let digits := rest.takeWhile fun c => c = '0' || c = '1' || c = '_'
    !digits.isEmpty && isOver (rest.drop digits.length)
  | '0' :: 'x' :: rest =>
    let digits := rest.takeWhile fun c => (Text.hexValue? c).isSome || c = '_'
    !digits.isEmpty && isOver (rest.drop digits.length)
  | '0' :: rest =>
    isOver (rest.dropWhile fun c => ('0' ≤ c && c ≤ '7') || c = '_')
  | c :: rest =>
    if '1' ≤ c && c ≤ '9' then
      let after := rest.dropWhile isDigitOrBar
      isOver after || (sixties (after.length + 1) after).any isOver
    else false
  | [] => false

/-- Whether a text is a decimal fraction, in base ten or sixty, an infinity, or the word for no
number. -/
def isFraction (text : List Char) : Bool :=
  let body := Number.unsigned text
  match body with
  | '.' :: rest =>
    let after := rest.dropWhile isDigitOrBar
    (body.length = text.length && rest.head?.any Text.isAsciiDigit && isExponent after)
      || isOneOf ["inf", "Inf", "INF"] rest
      || (body.length = text.length && isOneOf ["nan", "NaN", "NAN"] rest)
  | c :: rest =>
    if Text.isAsciiDigit c then
      let after := rest.dropWhile isDigitOrBar
      match after with
      | '.' :: fraction => isExponent (fraction.dropWhile isDigitOrBar)
      | _ =>
        match sixties (after.length + 1) after with
        | some ('.' :: fraction) => isOver (fraction.dropWhile isDigitOrBar)
        | _ => false
    else false
  | [] => false

/-! ## Days and moments -/

/-- The parts of a written moment, all digits as written. -/
structure WrittenTime where
  hour : List Char
  minute : List Char
  second : List Char
  fraction : List Char
  /-- The zone: universal time, or a sign with hours and minutes. -/
  zone : Option (Option (Char × List Char × List Char))

/-- The parts of a written day, with the time if there is one. -/
structure WrittenMoment where
  year : List Char
  month : List Char
  day : List Char
  time : Option WrittenTime

/-- One or two digits, as many as there are, and what follows. -/
def upToTwoDigits (text : List Char) : Option (List Char × List Char) :=
  let digits := (text.take 2).takeWhile Text.isAsciiDigit
  if digits.isEmpty then none else some (digits, text.drop digits.length)

/-- Exactly `n` digits, and what follows. -/
def exactDigits (n : Nat) (text : List Char) : Option (List Char × List Char) :=
  let digits := (text.take n).takeWhile Text.isAsciiDigit
  if digits.length = n then some (digits, text.drop n) else none

/-- What follows a character, if it stands first. -/
def behind (c : Char) : List Char → Option (List Char)
  | d :: rest => if c = d then some rest else none
  | [] => none

/-- A zone behind blanks, up to the end. -/
def writtenZone? (text : List Char) : Option (Option (Option (Char × List Char × List Char))) :=
  if isOver text then some none
  else
    match text.dropWhile fun c => c = ' ' || c = '\t' with
    | 'Z' :: rest => if isOver rest then some (some none) else none
    | sign :: rest =>
      if sign = '+' || sign = '-' then do
        let (hour, rest) ← upToTwoDigits rest
        if isOver rest then some (some (some (sign, hour, [])))
        else
          let rest ← behind ':' rest
          let (minute, rest) ← exactDigits 2 rest
          if isOver rest then some (some (some (sign, hour, minute))) else none
      else none
    | [] => none

/-- A time with its zone, up to the end. -/
def writtenTime? (text : List Char) : Option WrittenTime := do
  let (hour, rest) ← upToTwoDigits text
  let (minute, rest) ← exactDigits 2 (← behind ':' rest)
  let (second, rest) ← exactDigits 2 (← behind ':' rest)
  let (fraction, rest) := match rest with
    | '.' :: rest => (rest.takeWhile Text.isAsciiDigit, rest.dropWhile Text.isAsciiDigit)
    | _ => ([], rest)
  let zone ← writtenZone? rest
  some ⟨hour, minute, second, fraction, zone⟩

/-- A day, with or without a time. -/
def writtenMoment? (text : List Char) : Option WrittenMoment := do
  let (year, rest) ← exactDigits 4 text
  let (month, rest) ← upToTwoDigits (← behind '-' rest)
  let (day, rest) ← upToTwoDigits (← behind '-' rest)
  if isOver rest then some ⟨year, month, day, none⟩
  else
    let rest ← match rest with
      | 'T' :: rest | 't' :: rest => some rest
      | _ =>
        let after := rest.dropWhile fun c => c = ' ' || c = '\t'
        if after.length < rest.length then some after else none
    let time ← writtenTime? rest
    some ⟨year, month, day, some time⟩

/-- Whether a plain scalar is a day or a moment. A day by itself has two digits for the month and
two for the day. -/
def isMoment (text : List Char) : Bool :=
  match writtenMoment? text with
  | none => false
  | some m => m.time.isSome || (m.month.length = 2 && m.day.length = 2)

/-! ## The tag of a plain scalar -/

/-- The words for truth values. -/
def truthWords : List String :=
  ["yes", "Yes", "YES", "no", "No", "NO", "true", "True", "TRUE", "false", "False", "FALSE",
    "on", "On", "ON", "off", "Off", "OFF"]

/-- The tag that a plain scalar gets by its text. -/
def Tag.ofPlain (text : List Char) : Tag :=
  if text.isEmpty then .null
  else if isOneOf truthWords text then .bool
  else if isFraction text then .float
  else if isWhole text then .int
  else if isOneOf ["<<"] text then .merge
  else if isOneOf ["~", "null", "Null", "NULL"] text then .null
  else if isMoment text then .timestamp
  else if isOneOf ["="] text then .value
  else .str

end PackageGate.Yaml
