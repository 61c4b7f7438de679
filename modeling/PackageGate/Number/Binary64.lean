/-!
# Double-precision numbers

A finite double is a mantissa below 2⁵³ times a power of two, with a sign. All operations are done
on exact ratios of natural numbers and then rounded once, to the nearest double and to the even
mantissa in the middle; so nothing here depends on the machine's arithmetic.

What is no number carries a payload, which tells one such value from another: it is the same value
as one with the same payload, and as nothing else.
-/

namespace PackageGate.Number

/-- A double: a signed dyadic number, an infinity, or no number with a payload. A finite mantissa is
at least 2⁵² unless the exponent is the least one. -/
inductive Binary64 where
  | finite (negative : Bool) (mantissa : Nat) (exponent : Int)
  | infinite (negative : Bool)
  | nan (payload : Nat)
deriving Repr, DecidableEq, Inhabited

namespace Binary64

/-- The least exponent: the distance of the smallest doubles is 2⁻¹⁰⁷⁴. -/
def leastExponent : Int := -1074

/-- The greatest exponent of a finite double. -/
def greatestExponent : Int := 971

/-- The quotient `num / den · 2^(-e)` as a pair of numerator and denominator. -/
def scaled (num den : Nat) (e : Int) : Nat × Nat :=
  if 0 ≤ e then (num, den * Nat.pow 2 e.toNat) else (num * Nat.pow 2 (-e).toNat, den)

/-- Rounds a quotient to the nearest natural number, a half to the even one. -/
def roundHalfEven (num den : Nat) : Nat :=
  let q := num / den
  let r := num % den
  if 2 * r < den then q
  else if den < 2 * r then q + 1
  else q + q % 2

/-- The exponent at which the integer part of `num / den · 2^(-e)` has 53 binary digits, but no
less than the least one. -/
def exponentOf (num den : Nat) : Int :=
  let guess : Int := (Nat.log2 num : Int) - (Nat.log2 den : Int) - 52
  let (n, d) := scaled num den guess
  let e :=
    if n / d < Nat.pow 2 52 then guess - 1
    else if Nat.pow 2 53 ≤ n / d then guess + 1
    else guess
  max e leastExponent

/-- The double nearest to `num / den`. -/
def ofRatio (negative : Bool) (num den : Nat) : Binary64 :=
  if num = 0 then .finite negative 0 leastExponent
  else
    let e := exponentOf num den
    let (n, d) := scaled num den e
    let m := roundHalfEven n d
    let (m, e) := if m = Nat.pow 2 53 then (Nat.pow 2 52, e + 1) else (m, e)
    if greatestExponent < e then .infinite negative else .finite negative m e

/-- The double nearest to `digits · 10^exponent`. Exponents far outside the range of doubles are
settled without writing the power out. -/
def ofDecimal (negative : Bool) (digits : Nat) (exponent : Int) : Binary64 :=
  let size : Int := (Nat.log2 digits : Int) / 3 + 1
  if digits = 0 then .finite negative 0 leastExponent
  else if 400 < exponent then .infinite negative
  else if exponent + size < -400 then .finite negative 0 leastExponent
  else if 0 ≤ exponent then ofRatio negative (digits * Nat.pow 10 exponent.toNat) 1
  else ofRatio negative digits (Nat.pow 10 (-exponent).toNat)

/-- The double nearest to a natural number. -/
def ofNat (n : Nat) : Binary64 := ofRatio false n 1

/-- A finite double as an exact fraction: sign, numerator and denominator. -/
def toRatio? : Binary64 → Option (Int × Nat)
  | .finite negative m e =>
    let (n, d) := if 0 ≤ e then (m * Nat.pow 2 e.toNat, 1) else (m, Nat.pow 2 (-e).toNat)
    some (if negative then -(n : Int) else n, d)
  | _ => none

/-- The same number with the other sign. -/
def neg : Binary64 → Binary64
  | .finite negative m e => .finite (!negative) m e
  | .infinite negative => .infinite (!negative)
  | .nan payload => .nan payload

/-- The same value, but with another payload if it is no number. -/
def withPayload (payload : Nat) : Binary64 → Binary64
  | .nan _ => .nan payload
  | x => x

/-- The rounded sum. A sum of zeros is negative only if both are, opposite numbers have a positive
zero as their sum, and opposite infinities have none. -/
def add (x y : Binary64) : Binary64 :=
  match x, y with
  | .nan payload, _ | _, .nan payload => .nan payload
  | .infinite a, .infinite b => if a = b then x else .nan 0
  | .infinite _, _ => x
  | _, .infinite _ => y
  | .finite a m e, .finite b n f =>
    match x.toRatio?, y.toRatio? with
    | some (p, d), some (q, c) =>
      let sum : Int := p * c + q * d
      if sum = 0 then .finite (a && b && m = 0 && n = 0) 0 leastExponent
      else ofRatio (sum < 0) sum.natAbs (d * c)
    | _, _ => .finite (a && b && e = f) 0 leastExponent

/-- The rounded product. An infinity times zero is no number. -/
def mul (x y : Binary64) : Binary64 :=
  match x, y with
  | .nan payload, _ | _, .nan payload => .nan payload
  | .infinite a, .infinite b => .infinite (a != b)
  | .infinite a, .finite b n _ => if n = 0 then .nan 0 else .infinite (a != b)
  | .finite a m _, .infinite b => if m = 0 then .nan 0 else .infinite (a != b)
  | .finite a m e, .finite b n f =>
    let (num, den) := scaled 1 1 (-(e + f))
    ofRatio (a != b) (m * n * num) den

/-- Whether the number is a whole one. -/
def isIntegral (x : Binary64) : Bool :=
  match x.toRatio? with
  | some (p, d) => p.natAbs % d = 0
  | none => false

/-- The whole number that a double is equal to, if any. -/
def toInt? (x : Binary64) : Option Int :=
  match x.toRatio? with
  | some (p, d) => if p.natAbs % d = 0 then some (p / d) else none
  | none => none

/-- Exact order of two doubles; nothing is less or greater than no number. -/
def lt (x y : Binary64) : Bool :=
  match x, y with
  | .nan _, _ | _, .nan _ => false
  | .infinite a, .infinite b => a && !b
  | .infinite a, _ => a
  | _, .infinite b => !b
  | _, _ =>
    match x.toRatio?, y.toRatio? with
    | some (p, d), some (q, c) => p * c < q * d
    | _, _ => false

/-- Exact order of a double and a whole number. -/
def ltInt (x : Binary64) (n : Int) : Bool :=
  match x with
  | .nan _ => false
  | .infinite a => a
  | _ => match x.toRatio? with
    | some (p, d) => p < n * d
    | none => false

/-- Exact order of a whole number and a double. -/
def intLt (n : Int) (x : Binary64) : Bool :=
  match x with
  | .nan _ => false
  | .infinite a => !a
  | _ => match x.toRatio? with
    | some (p, d) => n * d < p
    | none => false

/-- Equality as numbers: the two zeros are equal. -/
def same (x y : Binary64) : Bool :=
  match x, y with
  | .finite _ 0 _, .finite _ 0 _ => true
  | _, _ => x = y

end Binary64

end PackageGate.Number
