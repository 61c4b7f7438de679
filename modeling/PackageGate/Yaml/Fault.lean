import PackageGate.Value.Show

/-!
# Scalars that have no value

A scalar may be written, or tagged, as something it is not: a month that does not exist, a number
without digits, a character beyond Unicode. Such a document is not reported as malformed. The
fault passes through the whole program, and each kind keeps a wording of its own.
-/

namespace PackageGate.Yaml

/-- The ways in which a scalar fails to have a value. -/
inductive Fault where
  /-- An escape names a number above U+10FFFF. -/
  | beyondUnicode
  /-- An escape names a number that does not even fit a machine word. -/
  | beyondWord
  /-- A text that is no whole number. -/
  | notWhole (reason : Number.Whole.Fault)
  /-- A number that is no decimal fraction. -/
  | notDecimal (text : String)
  /-- A number in base sixty has so many places that the worth of one is beyond all doubles. -/
  | beyondDouble
  /-- A number without any character. -/
  | emptyNumber
  /-- A word that is no truth value. -/
  | notTruth (word : String)
  /-- A text that is no day or moment. -/
  | notMoment
  /-- A mapping in the place of a moment. -/
  | momentOfMapping
  | yearRange (year : Nat)
  | monthRange
  | dayRange
  | hourRange
  | minuteRange
  | secondRange
  /-- A distance from universal time of a day or more, in seconds. -/
  | offsetRange (seconds : Int)
deriving Repr, DecidableEq

/-- The wording of a fault. -/
def Fault.message : Fault → String
  | .beyondUnicode => "chr() arg not in range(0x110000)"
  | .beyondWord => "Python int too large to convert to C int"
  | .notWhole reason => reason.message
  | .notDecimal text => s!"could not convert string to float: {Text.quoted text}"
  | .beyondDouble => "int too large to convert to float"
  | .emptyNumber => "string index out of range"
  | .notTruth word => Text.quoted word
  | .notMoment => "'NoneType' object has no attribute 'groupdict'"
  | .momentOfMapping => "expected string or bytes-like object, got 'list'"
  | .yearRange year => s!"year {year} is out of range"
  | .monthRange => "month must be in 1..12"
  | .dayRange => "day is out of range for month"
  | .hourRange => "hour must be in 0..23"
  | .minuteRange => "minute must be in 0..59"
  | .secondRange => "second must be in 0..59"
  | .offsetRange seconds =>
    "offset must be a timedelta strictly between -timedelta(hours=24) and " ++
      s!"timedelta(hours=24), not {Value.showSpan seconds}."

end PackageGate.Yaml
