import PackageGate.Text.Digit
import PackageGate.Text.Hex

/-!
# Numbers in hexadecimal

The digits that `hex` writes are hexadecimal digits, as many as wanted if the number does not take
more, and the number that they write is the one they were made of (`hexNumeral_hex`).
-/

namespace PackageGate.Text

/-- The number that hexadecimal digits write, behind a number that has been read before. -/
def hexNumeral (before : Nat) (digits : List Char) : Nat :=
  digits.foldl (fun n c => 16 * n + (hexValue? c).getD 0) before

/-- A hexadecimal digit, in lower or upper case. -/
def IsHexDigit (c : Char) : Prop := ∃ d, hexValue? c = some d

/-- Hexadecimal digits stand between the digit zero and the letter f. -/
theorem IsHexDigit.bounds {c : Char} (h : IsHexDigit c) : 48 ≤ c.toNat ∧ c.toNat ≤ 102 := by
  obtain ⟨d, hd⟩ := h
  unfold hexValue? at hd
  split at hd
  · rename_i hc
    have hlow : 48 ≤ c.toNat := hc.1
    have hhigh : c.toNat ≤ 57 := hc.2
    omega
  · split at hd
    · rename_i hc
      have hlow : 97 ≤ c.toNat := hc.1
      have hhigh : c.toNat ≤ 102 := hc.2
      omega
    · split at hd
      · rename_i hc
        have hlow : 65 ≤ c.toNat := hc.1
        have hhigh : c.toNat ≤ 70 := hc.2
        omega
      · cases hd

theorem hexValue?_digitChar {d : Nat} (h : d < 16) : hexValue? (Nat.digitChar d) = some d := by
  have hall : ∀ d : Fin 16, hexValue? (Nat.digitChar d) = some d.val := by decide
  exact hall ⟨d, h⟩

theorem isHexDigit_digitChar {d : Nat} (h : d < 16) : IsHexDigit (Nat.digitChar d) :=
  ⟨d, hexValue?_digitChar h⟩

theorem hexNumeral_append (before : Nat) (digits more : List Char) :
    hexNumeral before (digits ++ more) = hexNumeral (hexNumeral before digits) more :=
  List.foldl_append

theorem isHexDigit_of_mem_digitsIn {n : Nat} : ∀ c ∈ digitsIn 16 n, IsHexDigit c := by
  induction n using Nat.strongRecOn with
  | _ n ih =>
      intro c hc
      by_cases hn : n < 16
      · rw [digitsIn, Nat.toDigits_of_lt_base hn, List.mem_singleton] at hc
        rw [hc]
        exact isHexDigit_digitChar hn
      · rw [digitsIn, Nat.toDigits_of_base_le (by decide) (by omega), List.mem_append,
          List.mem_singleton] at hc
        rcases hc with hc | rfl
        · exact ih (n / 16) (by omega) c hc
        · exact isHexDigit_digitChar (by omega)

theorem hexNumeral_digitsIn (n : Nat) : hexNumeral 0 (digitsIn 16 n) = n := by
  induction n using Nat.strongRecOn with
  | _ n ih =>
      by_cases hn : n < 16
      · rw [digitsIn, Nat.toDigits_of_lt_base hn]
        show 16 * 0 + (hexValue? n.digitChar).getD 0 = n
        rw [hexValue?_digitChar hn, Option.getD_some, Nat.mul_zero, Nat.zero_add]
      · rw [digitsIn, Nat.toDigits_of_base_le (by decide) (by omega), hexNumeral_append]
        show 16 * hexNumeral 0 (digitsIn 16 (n / 16)) + (hexValue? (n % 16).digitChar).getD 0 = n
        rw [ih (n / 16) (by omega), hexValue?_digitChar (by omega), Option.getD_some]
        omega

theorem isHexDigit_of_mem_hex {width n : Nat} : ∀ c ∈ hex width n, IsHexDigit c := by
  intro c hc
  rcases List.mem_append.1 hc with hc | hc
  · rw [List.eq_of_mem_replicate hc]
    exact isHexDigit_digitChar (by decide : 0 < 16)
  · exact isHexDigit_of_mem_digitsIn c hc

theorem length_hex {width n : Nat} (h : (digitsIn 16 n).length ≤ width) :
    (hex width n).length = width := by
  rw [hex, padLeft, List.length_append, List.length_replicate]
  omega

/-- **The digits of a number are read as this number.** -/
theorem hexNumeral_hex (width n : Nat) : hexNumeral 0 (hex width n) = n := by
  have hzeros : ∀ k, hexNumeral 0 (List.replicate k '0') = 0 := by
    intro k
    induction k with
    | zero => rfl
    | succ k ih => exact ih
  rw [hex, padLeft, hexNumeral_append, hzeros, hexNumeral_digitsIn]

end PackageGate.Text
