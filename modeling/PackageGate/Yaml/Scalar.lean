import PackageGate.Yaml.Error
import PackageGate.Yaml.Tag
import PackageGate.Text.Split
import PackageGate.Text.Lower

/-!
# The values of scalars

A scalar's value follows from its tag and its text. Numbers allow underscores anywhere, which are
left out first.
-/

namespace PackageGate.Yaml

open Number (Binary64)

/-! ## Numbers -/

/-- The whole number that a text denotes in a base. -/
def wholeIn (base : Nat) (text : List Char) : Except Stop Int :=
  (Number.Whole.ofText base text).mapError fun reason => .fault (.notWhole reason)

/-- The value of digits in base sixty, the highest first. -/
def baseSixty (digits : List Int) : Int := digits.foldl (fun n d => 60 * n + d) 0

/-- A text without underscores. -/
def withoutBars (text : List Char) : List Char := text.filter (· ≠ '_')

/-- The text behind a sign and whether the sign is a minus, unless the text is empty. -/
def splitSign : List Char → Except Stop (Bool × List Char)
  | [] => .error (.fault .emptyNumber)
  | '-' :: rest => .ok (true, rest)
  | '+' :: rest => .ok (false, rest)
  | text => .ok (false, text)

/-- The whole number that a text denotes. -/
def wholeValue (text : List Char) : Except Stop Int := do
  let (negative, body) ← splitSign (withoutBars text)
  let n ← match body with
    | [] => .error (.fault .emptyNumber)
    | ['0'] => .ok 0
    | '0' :: 'b' :: rest => wholeIn 2 rest
    | '0' :: 'x' :: rest => wholeIn 16 rest
    | '0' :: _ => wholeIn 8 body
    | _ =>
      if body.contains ':' then do
        let digits ← (Text.splitAt ':' body).mapM (wholeIn 10)
        .ok (baseSixty digits)
      else wholeIn 10 body
  .ok (if negative then -n else n)

/-- A decimal fraction with an optional sign and exponent, or the word for an infinity or for no
number, in lower case. -/
def decimalIn (text : List Char) : Except Stop Binary64 :=
  let failure : Except Stop Binary64 := .error (.fault (.notDecimal (String.ofList text)))
  let all := Number.trimmed (Number.numeral text)
  let negative := Number.isNegative all
  let body := Number.unsigned all
  let signed (x : Binary64) := if negative then x.neg else x
  if body = "inf".toList || body = "infinity".toList then .ok (.infinite negative)
  else if body = "nan".toList then .ok (.nan 0)
  else
    let whole := body.takeWhile Text.isAsciiDigit
    let rest := body.drop whole.length
    let (fraction, rest) := match rest with
      | '.' :: rest => (rest.takeWhile Text.isAsciiDigit, rest.dropWhile Text.isAsciiDigit)
      | _ => ([], rest)
    if whole.isEmpty && fraction.isEmpty then failure
    else
      let digits := Text.decimalValue (whole ++ fraction)
      let number (e : Int) : Binary64 := signed (.ofDecimal false digits (e - fraction.length))
      match rest with
      | [] => .ok (number 0)
      | 'e' :: rest =>
        let exponent := Number.unsigned rest
        if exponent.isEmpty || !exponent.all Text.isAsciiDigit then failure
        else
          let e : Int := Text.decimalValue exponent
          .ok (number (if Number.isNegative rest then -e else e))
      | _ => failure

/-- What a place of a number in base sixty adds to it, where 0 is the last place. -/
def placeValue (digit : Binary64) (place : Nat) : Except Stop Binary64 :=
  match Binary64.ofNat (Nat.pow 60 place) with
  | .infinite _ => .error (.fault .beyondDouble)
  | worth => .ok (digit.mul worth)

/-- The double that a text denotes. The word for no number means the same value wherever it stands;
any other text that denotes no number has a value of its own. -/
def fractionValue (own : Nat) (text : List Char) : Except Stop Binary64 := do
  let (negative, body) ← splitSign (Text.lower (withoutBars text))
  let x ← if body = ".inf".toList then .ok (Binary64.infinite false)
    else if body = ".nan".toList then .ok (.nan 0)
    else if body.contains ':' then do
      let digits ← (Text.splitAt ':' body).mapM decimalIn
      let terms ← digits.reverse.zipIdx.mapM fun (digit, place) => placeValue digit place
      .ok (terms.foldl Binary64.add (.ofNat 0))
    else decimalIn body
  let payload := if body = ".nan".toList then 0 else own
  .ok ((if negative then x.neg else x).withPayload payload)

/-! ## Truth values -/

/-- The truth value that a word denotes. -/
def truthValue (text : List Char) : Except Stop Bool :=
  let word := String.ofList (Text.lower text)
  if ["yes", "true", "on"].contains word then .ok true
  else if ["no", "false", "off"].contains word then .ok false
  else .error (.fault (.notTruth word))

/-! ## Days and moments -/

/-- Whether a year has a leap day. -/
def isLeapYear (year : Nat) : Bool := year % 4 = 0 && (year % 100 ≠ 0 || year % 400 = 0)

/-- How many days a month has. -/
def daysInMonth (year month : Nat) : Nat :=
  if month = 2 then (if isLeapYear year then 29 else 28)
  else if month = 4 || month = 6 || month = 9 || month = 11 then 30 else 31

/-- A day of the calendar. -/
def dateOf (year month day : Nat) : Except Stop Date :=
  if year = 0 then .error (.fault (.yearRange year))
  else if month = 0 || 12 < month then .error (.fault .monthRange)
  else if day = 0 || daysInMonth year month < day then .error (.fault .dayRange)
  else .ok ⟨year, month, day⟩

/-- The seconds of a written zone. -/
def zoneOffset (zone : Option (Option (Char × List Char × List Char))) :
    Except Stop (Option Int) :=
  match zone with
  | none => .ok none
  | some none => .ok (some 0)
  | some (some (sign, hour, minute)) =>
    let seconds : Int := Text.decimalValue hour * 3600 + Text.decimalValue minute * 60
    let seconds := if sign = '-' then -seconds else seconds
    if 86400 ≤ seconds.natAbs then .error (.fault (.offsetRange seconds)) else .ok (some seconds)

/-- The millionths of a second that the digits behind the point denote. -/
def microseconds (fraction : List Char) : Nat :=
  let digits := fraction.take 6
  Text.decimalValue (digits ++ List.replicate (6 - digits.length) '0')

/-- The day or moment that a text denotes. -/
def momentValue (text : List Char) : Except Stop Value :=
  match writtenMoment? text with
  | none => .error (.fault .notMoment)
  | some w =>
    let number := Text.decimalValue
    match w.time with
    | none => do
      let date ← dateOf (number w.year) (number w.month) (number w.day)
      .ok (.date date)
    | some time => do
      let offset ← zoneOffset time.zone
      let date ← dateOf (number w.year) (number w.month) (number w.day)
      if 23 < number time.hour then .error (.fault .hourRange)
      else if 59 < number time.minute then .error (.fault .minuteRange)
      else if 59 < number time.second then .error (.fault .secondRange)
      else
        .ok (.moment ⟨date, number time.hour, number time.minute, number time.second,
          microseconds time.fraction, offset⟩)

/-! ## Bytes -/

/-- The six bits of a character in base 64. -/
def sixBits? (c : Char) : Option Nat :=
  if 'A' ≤ c ∧ c ≤ 'Z' then some (c.toNat - 'A'.toNat)
  else if 'a' ≤ c ∧ c ≤ 'z' then some (c.toNat - 'a'.toNat + 26)
  else if '0' ≤ c ∧ c ≤ '9' then some (c.toNat - '0'.toNat + 52)
  else if c = '+' then some 62
  else if c = '/' then some 63
  else none

/-- The bytes of a text in base 64, where `place` characters of the present group of four have been
read, the bits `left` are waiting, and `pads` padding characters came last. Foreign characters are
skipped, and padding that completes a group ends the text. -/
def bytesOf (place left pads : Nat) (done : List UInt8) :
    List Char → Except Problem (List UInt8)
  | [] =>
    if place = 0 then .ok done.reverse
    else if place = 1 then .error (.badDataLength (done.length / 3 * 4 + 1))
    else .error .badPadding
  | c :: rest =>
    if c = '=' then
      if 2 ≤ place ∧ 4 ≤ place + (pads + 1) then .ok done.reverse
      else bytesOf place left (if 2 ≤ place then pads + 1 else pads) done rest
    else match sixBits? c with
      | none => bytesOf place left pads done rest
      | some bits =>
        match place with
        | 0 => bytesOf 1 bits 0 done rest
        | 1 => bytesOf 2 (bits % 16) 0 ((left * 4 + bits / 16).toUInt8 :: done) rest
        | 2 => bytesOf 3 (bits % 4) 0 ((left * 16 + bits / 4).toUInt8 :: done) rest
        | _ => bytesOf 0 0 0 ((left * 64 + bits).toUInt8 :: done) rest

/-- The bytes that a text denotes. -/
def bytesValue (text : List Char) : Except Problem (List UInt8) :=
  if text.all (·.toNat < 128) then bytesOf 0 0 0 [] text else .error (.notAsciiData text)

end PackageGate.Yaml
