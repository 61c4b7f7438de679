import Mathlib.Algebra.Order.Field.Basic
import Mathlib.Algebra.Order.Ring.Rat
import Mathlib.Order.WithBot
import PackageGate.Number.Binary64

/-!
# Where doubles stand

A finite double is a rational number, and the infinite ones stand at the two ends of the line of
numbers. What is no number stands nowhere, and so is neither less nor greater than anything. The
comparisons of doubles, with each other and with whole numbers, are those of their places
(`lt_iff`, `ltInt_iff`, `intLt_iff`), and a double without a fraction stands where a whole number
does (`isIntegral_iff`).
-/

namespace PackageGate.Number

/-- The line of numbers, with its two ends. -/
abbrev Line := WithBot (WithTop ℚ)

/-- Where a rational number stands. -/
def Line.ofRat (q : ℚ) : Line := WithBot.some (WithTop.some q)

@[simp] theorem Line.ofRat_lt_ofRat {p q : ℚ} : Line.ofRat p < Line.ofRat q ↔ p < q := by
  rw [ofRat, ofRat, WithBot.coe_lt_coe, WithTop.coe_lt_coe]

@[simp] theorem Line.ofRat_inj {p q : ℚ} : Line.ofRat p = Line.ofRat q ↔ p = q := by
  rw [ofRat, ofRat, WithBot.coe_inj, WithTop.coe_inj]

@[simp] theorem Line.bot_lt_ofRat (q : ℚ) : (⊥ : Line) < Line.ofRat q := WithBot.bot_lt_coe _

@[simp] theorem Line.ofRat_lt_top (q : ℚ) : Line.ofRat q < (⊤ : Line) :=
  WithBot.coe_lt_coe.2 (WithTop.coe_lt_top q)

/-- No rational number stands at an end. -/
@[simp] theorem Line.bot_ne_ofRat (q : ℚ) : (⊥ : Line) ≠ Line.ofRat q := (bot_lt_ofRat q).ne

@[simp] theorem Line.top_ne_ofRat (q : ℚ) : (⊤ : Line) ≠ Line.ofRat q := (ofRat_lt_top q).ne'

/-- One number stands before another, if both stand somewhere. -/
def Before (a b : Option Line) : Prop := ∃ p q, a = some p ∧ b = some q ∧ p < q

namespace Binary64

/-- The rational number that a sign, a mantissa and an exponent make. -/
def ratio (negative : Bool) (mantissa : Nat) (exponent : Int) : ℚ :=
  (if negative then -(mantissa : ℚ) else mantissa) * 2 ^ exponent

/-- Where a double stands on the line of numbers. -/
def place? : Binary64 → Option Line
  | .finite negative m e => some (Line.ofRat (ratio negative m e))
  | .infinite negative => some (if negative then ⊥ else ⊤)
  | .nan _ => none

/-- A finite double is the fraction that is read off it. -/
theorem toRatio?_finite (negative : Bool) (m : Nat) (e : Int) :
    ∃ p d, (Binary64.finite negative m e).toRatio? = some (p, d) ∧ 0 < d
      ∧ ratio negative m e = p / d := by
  by_cases he : 0 ≤ e
  · have hread : (Binary64.finite negative m e).toRatio? =
        some (if negative then -(m * 2 ^ e.toNat : Int) else m * 2 ^ e.toNat, 1) := by
      simp [toRatio?, he]
    refine ⟨_, _, hread, Nat.one_pos, ?_⟩
    obtain ⟨n, rfl⟩ := Int.eq_ofNat_of_zero_le he
    cases negative <;> simp [ratio]
  · have hread : (Binary64.finite negative m e).toRatio? =
        some (if negative then -(m : Int) else m, 2 ^ (-e).toNat) := by
      simp [toRatio?, he]
    refine ⟨_, _, hread, Nat.two_pow_pos _, ?_⟩
    obtain ⟨n, rfl⟩ : ∃ n : Nat, e = -n := ⟨(-e).toNat, by omega⟩
    cases negative <;> simp [ratio, div_eq_mul_inv]

theorem before_some {p q : Line} : Before (some p) (some q) ↔ p < q := by
  simp [Before]

theorem not_before_none {a b : Option Line} (h : a = none ∨ b = none) : ¬Before a b := by
  rintro ⟨p, q, rfl, rfl, _⟩
  rcases h with h | h <;> cases h

/-- Fractions are compared by multiplying them out. -/
theorem cross_lt_iff {p q : Int} {d c : Nat} (hd : 0 < d) (hc : 0 < c) :
    (p : ℚ) / d < q / c ↔ p * c < q * d := by
  have hd' : (0 : ℚ) < d := by exact_mod_cast hd
  have hc' : (0 : ℚ) < c := by exact_mod_cast hc
  rw [div_lt_div_iff₀ hd' hc']
  exact_mod_cast Iff.rfl

/-- Doubles are compared by where they stand. -/
theorem lt_iff (x y : Binary64) : x.lt y = true ↔ Before x.place? y.place? := by
  cases x with
  | nan n => simp [lt, place?, not_before_none]
  | infinite a =>
      cases y with
      | nan n => simp [lt, place?, not_before_none]
      | infinite b => cases a <;> cases b <;> simp [lt, place?, before_some]
      | finite b n f => cases a <;> simp [lt, place?, before_some]
  | finite a m e =>
      cases y with
      | nan n => simp [lt, place?, not_before_none]
      | infinite b =>
          cases b <;> simp [lt, place?, before_some]
      | finite b n f =>
          obtain ⟨p, d, hx, hd, hp⟩ := toRatio?_finite a m e
          obtain ⟨q, c, hy, hc, hq⟩ := toRatio?_finite b n f
          simp only [lt, hx, hy, place?, before_some, Line.ofRat_lt_ofRat, hp, hq,
            cross_lt_iff hd hc, decide_eq_true_eq]

/-- A double and a whole number are compared by where they stand. -/
theorem ltInt_iff (x : Binary64) (n : Int) :
    x.ltInt n = true ↔ Before x.place? (some (Line.ofRat n)) := by
  cases x with
  | nan k => simp [ltInt, place?, not_before_none]
  | infinite a => cases a <;> simp [ltInt, place?, before_some]
  | finite a m e =>
      obtain ⟨p, d, hx, hd, hp⟩ := toRatio?_finite a m e
      have hcross := cross_lt_iff (p := p) (q := n) hd Nat.one_pos
      simp only [Nat.cast_one, div_one, mul_one] at hcross
      simp only [ltInt, hx, place?, before_some, Line.ofRat_lt_ofRat, hp, hcross, decide_eq_true_eq]

/-- A whole number and a double are compared by where they stand. -/
theorem intLt_iff (n : Int) (x : Binary64) :
    intLt n x = true ↔ Before (some (Line.ofRat n)) x.place? := by
  cases x with
  | nan k => simp [intLt, place?, not_before_none]
  | infinite a => cases a <;> simp [intLt, place?, before_some]
  | finite a m e =>
      obtain ⟨p, d, hx, hd, hp⟩ := toRatio?_finite a m e
      have hcross := cross_lt_iff (p := n) (q := p) Nat.one_pos hd
      simp only [Nat.cast_one, div_one, mul_one] at hcross
      simp only [intLt, hx, place?, before_some, Line.ofRat_lt_ofRat, hp, hcross, decide_eq_true_eq]

/-- A double without a fraction stands where a whole number does. -/
theorem isIntegral_iff (x : Binary64) :
    x.isIntegral = true ↔ ∃ n : Int, x.place? = some (Line.ofRat n) := by
  cases x with
  | nan k => simp [isIntegral, toRatio?, place?]
  | infinite a => cases a <;> simp [isIntegral, toRatio?, place?]
  | finite a m e =>
      obtain ⟨p, d, hx, hd, hp⟩ := toRatio?_finite a m e
      have hd' : (d : ℚ) ≠ 0 := by exact_mod_cast hd.ne'
      have hwhole : ∀ n : Int, ratio a m e = n ↔ p = n * d := by
        intro n
        rw [hp, div_eq_iff hd']
        exact_mod_cast Iff.rfl
      simp only [isIntegral, hx, place?, Option.some.injEq, Line.ofRat_inj, hwhole,
        decide_eq_true_eq]
      rw [← Nat.dvd_iff_mod_eq_zero, ← Int.natCast_dvd]
      constructor
      · rintro ⟨n, hn⟩
        exact ⟨n, by rw [hn, Int.mul_comm]⟩
      · rintro ⟨n, hn⟩
        exact ⟨n, by rw [hn, Int.mul_comm]⟩

end Binary64

end PackageGate.Number
