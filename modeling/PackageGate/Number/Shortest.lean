import PackageGate.Number.Binary64
import PackageGate.Text.Hex

/-!
# The shortest decimal of a double

A double is shown by the decimal with the fewest digits that reads back as the same double, and
among those by the nearest one. On each decimal grid only the two neighbours of the double need to
be looked at: if any point of the grid reads back, one of them does.

Seventeen digits always suffice.
-/

namespace PackageGate.Number

/-- A positive decimal: the digits as a number, to be multiplied by a power of ten. -/
structure Decimal where
  digits : Nat
  exponent : Int
deriving Repr, DecidableEq

namespace Decimal

/-- The exponent of the leading digit: 0 for numbers from 1 up to 10. -/
def leading (d : Decimal) : Int := d.exponent + (Text.digitsIn 10 d.digits).length - 1

/-- The same decimal without zeros at its end. -/
def trim (fuel : Nat) (d : Decimal) : Decimal :=
  match fuel with
  | 0 => d
  | fuel + 1 =>
    if d.digits ≠ 0 ∧ d.digits % 10 = 0 then trim fuel ⟨d.digits / 10, d.exponent + 1⟩ else d

end Decimal

/-- The whole part of `num / den / 10^e`, and whether something is left and on which side of the
middle it lies. -/
def gridPoint (num den : Nat) (e : Int) : Nat × Ordering × Bool :=
  let (n, d) :=
    if 0 ≤ e then (num, den * Nat.pow 10 e.toNat) else (num * Nat.pow 10 (-e).toNat, den)
  (n / d, compare (2 * (n % d)) d, n % d ≠ 0)

/-- The exponent of the leading decimal digit of `num / den`. -/
def leadingExponent (num den : Nat) : Int :=
  if den ≤ num then ((Text.digitsIn 10 (num / den)).length : Int) - 1
  else
    -- the first power of ten that lifts the fraction to one or more
    let guess := (Text.digitsIn 10 (den / num)).length
    if den ≤ num * Nat.pow 10 (guess - 1) then -((guess : Int) - 1) else -(guess : Int)

/-- The better of the two neighbours on the grid of `n` digits that reads back as `x`. -/
def shortestWith? (x : Binary64) (num den n : Nat) : Option Decimal :=
  let e := leadingExponent num den - (n : Int) + 1
  let (low, side, inexact) := gridPoint num den e
  let high := if inexact then low + 1 else low
  let back (k : Nat) : Bool := Binary64.ofDecimal false k e == x
  let lowFirst := side = .lt || (side = .eq && low % 2 = 0)
  let candidates := if lowFirst then [low, high] else [high, low]
  (candidates.find? back).map fun k => ⟨k, e⟩

/-- The first grid, from `n` digits on, with a point that reads back. -/
def shortestFrom (x : Binary64) (num den : Nat) : (tries n : Nat) → Decimal
  | 0, n => ((shortestWith? x num den n).getD ⟨0, 0⟩)
  | tries + 1, n =>
    match shortestWith? x num den n with
    | some d => d
    | none => shortestFrom x num den tries (n + 1)

/-- The shortest decimal of a positive double `mantissa · 2^exponent`. -/
def shortest (mantissa : Nat) (exponent : Int) : Decimal :=
  let (num, den) :=
    if 0 ≤ exponent then (mantissa * Nat.pow 2 exponent.toNat, 1)
    else (mantissa, Nat.pow 2 (-exponent).toNat)
  (shortestFrom (.finite false mantissa exponent) num den 16 1).trim 20

/-- How decimals are written: positionally while the leading exponent lies in a window, with a
point and at least one digit behind it; otherwise with an exponent of at least `exponentWidth`
digits and its sign. -/
structure DecimalStyle where
  leastPositional : Int
  greatestPositional : Int
  exponentWidth : Nat

/-- Numbers from 0.0001 up to, but without, 10¹⁶ are written positionally. -/
def DecimalStyle.plain : DecimalStyle := ⟨-4, 15, 2⟩

/-- A positive decimal written in a style. -/
def DecimalStyle.write (style : DecimalStyle) (d : Decimal) : List Char :=
  let digits := Text.digitsIn 10 d.digits
  let lead := d.leading
  if style.leastPositional ≤ lead ∧ lead ≤ style.greatestPositional then
    if lead < 0 then
      '0' :: '.' :: List.replicate ((-lead).toNat - 1) '0' ++ digits
    else
      let whole := digits.take (lead.toNat + 1)
      let fraction := digits.drop (lead.toNat + 1)
      whole ++ List.replicate (lead.toNat + 1 - digits.length) '0' ++
        '.' :: (if fraction.isEmpty then ['0'] else fraction)
  else
    let first := digits.take 1
    let others := digits.drop 1
    first ++ (if others.isEmpty then [] else '.' :: others) ++
      'e' :: (if lead < 0 then '-' else '+') :: Text.decimal style.exponentWidth lead.natAbs

/-- The text of a double: the shortest decimal in the plain style, or the name of what is no
finite number. -/
def Binary64.text : Binary64 → List Char
  | .nan _ => "nan".toList
  | .infinite negative => if negative then "-inf".toList else "inf".toList
  | .finite negative m e =>
    let body := if m = 0 then "0.0".toList else DecimalStyle.plain.write (shortest m e)
    if negative then '-' :: body else body

end PackageGate.Number
