import PackageGate.Text.Blank
import PackageGate.Text.Digit
import PackageGate.Text.Quoted
import PackageGate.Text.Split

/-!
# Whole numbers in texts

A whole number is written with an optional sign, in the digits of its base and, if it likes, behind
the mark of that base. Blanks may stand around it. Its digits may be grouped: single underscores
stand between digits, or between the mark and the digits, and nowhere else.

The digits of every script and the blanks of Unicode are as good as those of ASCII. In base ten the
number of digits is limited.
-/

namespace PackageGate.Number

/-- The greatest number of decimal digits that is read or written out. -/
def digitLimit : Nat := 4300

/-! ## The parts of a number -/

/-- A text as numbers read it: digits of all scripts as ASCII digits and blanks as spaces, but only
if the text is not ASCII throughout. Anything else outside ASCII is no part of a number. -/
def numeral (text : List Char) : List Char :=
  if text.all (·.toNat < 128) then text
  else text.map fun c =>
    if c.toNat < 127 then c
    else if Text.isBlank c then ' '
    else match Text.digitValue? c with
      | some d => Char.ofNat ('0'.toNat + d)
      | none => '?'

/-- Whether a character is dropped around a number. -/
def isPadding (c : Char) : Bool := c = ' ' || ('\t' ≤ c && c ≤ '\r')

/-- A text without padding at its ends. -/
def trimmed (text : List Char) : List Char :=
  ((text.dropWhile isPadding).reverse.dropWhile isPadding).reverse

/-- The text behind an optional sign. -/
def unsigned : List Char → List Char
  | '+' :: rest | '-' :: rest => rest
  | text => text

/-- Whether a text begins with a minus. -/
def isNegative (text : List Char) : Bool := text.head? = some '-'

/-- The value of a digit in a base. -/
def digitIn? (base : Nat) (c : Char) : Option Nat :=
  match Text.hexValue? c with
  | some d => if d < base then some d else none
  | none => none

/-- The letter that may follow a leading zero in a base. -/
def isBaseLetter (base : Nat) (c : Char) : Bool :=
  (base = 2 && (c = 'b' || c = 'B')) || (base = 8 && (c = 'o' || c = 'O'))
    || (base = 16 && (c = 'x' || c = 'X'))

/-- The text behind the mark of a base, if it begins with one. -/
def unmarked (base : Nat) (text : List Char) : List Char :=
  match text with
  | '0' :: letter :: rest =>
    if isBaseLetter base letter then
      match rest with
      | '_' :: digits => digits
      | digits => digits
    else text
  | _ => text

/-! ## Reading -/

namespace Whole

/-- Why a text is no whole number. -/
inductive Fault where
  /-- There are other characters than digits of the base, or no digits at all. -/
  | malformed (base : Nat) (text : String)
  /-- There are too many decimal digits. -/
  | tooManyDigits (digits : Nat)
deriving Repr, DecidableEq

/-- The wording of a fault; of a long text only the beginning is shown. -/
def Fault.message : Fault → String
  | .malformed base text =>
    let shown := String.ofList ((Text.quoted text).toList.take 200)
    s!"invalid literal for int() with base {base}: {shown}"
  | .tooManyDigits digits =>
    s!"Exceeds the limit ({digitLimit} digits) for integer string conversion: " ++
      s!"value has {digits} digits; use sys.set_int_max_str_digits() to increase the limit"

/-- The number that digits of a base denote. -/
def ofDigits (base : Nat) (digits : List Char) : Nat :=
  digits.foldl (fun n c => base * n + (digitIn? base c).getD 0) 0

/-- The whole number that a text denotes in a base. Too many digits are found before what follows
them is looked at. -/
def ofText (base : Nat) (text : List Char) : Except Fault Int :=
  let body := trimmed (numeral text)
  let digits := unmarked base (unsigned body)
  let run := digits.takeWhile fun c => c = '_' || (digitIn? base c).isSome
  let groups := Text.splitAt '_' run
  let count := groups.flatten.length
  if groups.any (·.isEmpty) then .error (.malformed base (String.ofList text))
  else if base = 10 && digitLimit < count then .error (.tooManyDigits count)
  else if run.length < digits.length then .error (.malformed base (String.ofList text))
  else
    let n := ofDigits base groups.flatten
    .ok (if isNegative body then -(n : Int) else n)

end Whole

end PackageGate.Number
