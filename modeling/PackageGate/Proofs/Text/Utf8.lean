import PackageGate.Text.Utf8

/-!
# Texts are decoded from their own bytes

The bytes of a character begin with a lead byte, unless it is one of ASCII. The lead byte says how
many bytes follow, and narrows the range of the next one to those of characters: the range cuts off
longer encodings of short numbers, the surrogates, and what is above the last character. The number
of a character is none of these, so its own bytes are always in range (`exists_lead?_three`,
`exists_lead?_four`), and decoding puts the number together again (`decodeFrom_encodeChar`). A text
is decoded character by character (`decode_encode`).
-/

namespace PackageGate.Text.Utf8

/-! ## Bytes -/

/-- The number of a character is no surrogate, and not above that of the last character. -/
theorem toNat_bounds (c : Char) : c.toNat < 0xD800 ∨ 0xDFFF < c.toNat ∧ c.toNat < 0x110000 :=
  c.valid

theorem toNat_byte {n : Nat} (h : n < 256) : n.toUInt8.toNat = n := by
  simp only [Nat.toUInt8_eq, UInt8.toNat_ofNat']
  omega

/-- The byte that six bits are written as. -/
theorem toNat_payload (n : Nat) : (0x80 + n % 64).toUInt8.toNat = 0x80 + n % 64 :=
  toNat_byte (by omega)

/-- Six bits continue an encoding. -/
theorem isContinuation_payload (n : Nat) :
    isContinuation (0x80 + n % 64).toUInt8.toNat = true := by
  rw [toNat_payload, isContinuation, Bool.and_eq_true, decide_eq_true_eq, decide_eq_true_eq]
  omega

/-! ## Lead bytes -/

/-- The lead byte of two bytes. -/
theorem lead?_two {n : Nat} (h : 0x80 ≤ n) (h' : n < 0x800) :
    lead? (0xC0 + n / 64) = some ⟨0x80, 0xBF, 0⟩ := by
  have hlow : ¬0xC0 + n / 64 < 0xC2 := by omega
  have hhigh : 0xC0 + n / 64 < 0xE0 := by omega
  rw [lead?, if_neg hlow, if_pos hhigh]

/-- The lead byte of three bytes. The second byte is in its range, since the number is neither one
of two bytes nor a surrogate. -/
theorem exists_lead?_three {n : Nat} (h : 0x800 ≤ n) (h' : n < 0x10000)
    (hscalar : n < 0xD800 ∨ 0xDFFF < n) :
    ∃ lead, lead? (0xE0 + n / 4096) = some lead ∧ lead.more = 1
      ∧ lead.low ≤ 0x80 + n / 64 % 64 ∧ 0x80 + n / 64 % 64 ≤ lead.high := by
  have hlow : ¬0xE0 + n / 4096 < 0xC2 := by omega
  have htwo : ¬0xE0 + n / 4096 < 0xE0 := by omega
  rw [lead?, if_neg hlow, if_neg htwo]
  by_cases hfirst : 0xE0 + n / 4096 = 0xE0
  · -- what is cut off below is written in two bytes
    rw [if_pos hfirst]
    exact ⟨_, rfl, rfl, by dsimp only; omega, by dsimp only; omega⟩
  · rw [if_neg hfirst]
    by_cases hsurrogates : 0xE0 + n / 4096 = 0xED
    · -- what is cut off above are the surrogates
      rw [if_pos hsurrogates]
      exact ⟨_, rfl, rfl, by dsimp only; omega, by dsimp only; omega⟩
    · have hthree : 0xE0 + n / 4096 < 0xF0 := by omega
      rw [if_neg hsurrogates, if_pos hthree]
      exact ⟨_, rfl, rfl, by dsimp only; omega, by dsimp only; omega⟩

/-- The lead byte of four bytes. The second byte is in its range, since the number is neither one of
three bytes nor above the last character. -/
theorem exists_lead?_four {n : Nat} (h : 0x10000 ≤ n) (h' : n < 0x110000) :
    ∃ lead, lead? (0xF0 + n / 262144) = some lead ∧ lead.more = 2
      ∧ lead.low ≤ 0x80 + n / 4096 % 64 ∧ 0x80 + n / 4096 % 64 ≤ lead.high := by
  have hlow : ¬0xF0 + n / 262144 < 0xC2 := by omega
  have htwo : ¬0xF0 + n / 262144 < 0xE0 := by omega
  have hthree : ¬0xF0 + n / 262144 < 0xF0 := by omega
  rw [lead?, if_neg hlow, if_neg htwo, if_neg (by omega), if_neg (by omega), if_neg hthree]
  by_cases hfirst : 0xF0 + n / 262144 = 0xF0
  · -- what is cut off below is written in three bytes
    rw [if_pos hfirst]
    exact ⟨_, rfl, rfl, by dsimp only; omega, by dsimp only; omega⟩
  · rw [if_neg hfirst]
    by_cases hinner : 0xF0 + n / 262144 < 0xF4
    · rw [if_pos hinner]
      exact ⟨_, rfl, rfl, by dsimp only; omega, by dsimp only; omega⟩
    · -- what is cut off above is no character
      rw [if_neg hinner, if_pos (by omega)]
      exact ⟨_, rfl, rfl, by dsimp only; omega, by dsimp only; omega⟩

/-- A lead byte is not a character by itself. -/
theorem not_lt_of_lead? {n : Nat} {lead : Lead} (h : lead? n = some lead) : ¬n < 0x80 := by
  rw [lead?] at h
  split at h
  · cases h
  · omega

theorem inRange {lead : Lead} {n : Nat} (hlow : lead.low ≤ n) (hhigh : n ≤ lead.high) :
    (n < lead.low || lead.high < n) = false := by
  simp only [Bool.or_eq_false_iff, decide_eq_false_iff_not]
  omega

/-! ## Decoding one encoding -/

section Decode

variable {b b₁ b₂ b₃ : UInt8} {lead : Lead} (offset : Nat) (rest : List UInt8)

theorem decodeFrom_two (h : lead? b.toNat = some lead) (hmore : lead.more = 0)
    (hlow : lead.low ≤ b₁.toNat) (hhigh : b₁.toNat ≤ lead.high) :
    decodeFrom offset (b :: b₁ :: rest) = (decodeFrom (offset + 2) rest).map
      (charOf (leadBits b.toNat * 64 + (b₁.toNat - 0x80)) :: ·) := by
  rw [decodeFrom, if_neg (not_lt_of_lead? h), h]
  simp only [inRange hlow hhigh, hmore, Bool.false_eq_true, if_false, if_true]

theorem decodeFrom_three (h : lead? b.toNat = some lead) (hmore : lead.more = 1)
    (hlow : lead.low ≤ b₁.toNat) (hhigh : b₁.toNat ≤ lead.high)
    (h₂ : isContinuation b₂.toNat = true) :
    decodeFrom offset (b :: b₁ :: b₂ :: rest) = (decodeFrom (offset + 3) rest).map
      (charOf ((leadBits b.toNat * 64 + (b₁.toNat - 0x80)) * 64 + (b₂.toNat - 0x80)) :: ·) := by
  rw [decodeFrom, if_neg (not_lt_of_lead? h), h]
  simp only [inRange hlow hhigh, hmore, h₂, Bool.false_eq_true, Bool.not_true, Nat.one_ne_zero,
    if_false, if_true]

theorem decodeFrom_four (h : lead? b.toNat = some lead) (hmore : lead.more = 2)
    (hlow : lead.low ≤ b₁.toNat) (hhigh : b₁.toNat ≤ lead.high)
    (h₂ : isContinuation b₂.toNat = true) (h₃ : isContinuation b₃.toNat = true) :
    decodeFrom offset (b :: b₁ :: b₂ :: b₃ :: rest) = (decodeFrom (offset + 4) rest).map
      (charOf (((leadBits b.toNat * 64 + (b₁.toNat - 0x80)) * 64 + (b₂.toNat - 0x80)) * 64 +
        (b₃.toNat - 0x80)) :: ·) := by
  rw [decodeFrom, if_neg (not_lt_of_lead? h), h]
  simp only [inRange hlow hhigh, hmore, h₂, h₃, Bool.false_eq_true, Bool.not_true, if_false,
    if_neg (show ¬2 = 0 by decide), if_neg (show ¬2 = 1 by decide)]

end Decode

/-! ## Decoding one character -/

section Character

variable {c : Char} (offset : Nat) (rest : List UInt8)

theorem decodeFrom_encodeChar_one (h : c.toNat < 0x80) :
    decodeFrom offset (encodeChar c ++ rest) =
      (decodeFrom (offset + (encodeChar c).length) rest).map (c :: ·) := by
  have hencode : encodeChar c = [c.toNat.toUInt8] := if_pos h
  rw [hencode, List.singleton_append, List.length_singleton, decodeFrom, toNat_byte (by omega),
    if_pos h, charOf, Char.ofNat_toNat]

theorem decodeFrom_encodeChar_two (h : 0x80 ≤ c.toNat) (h' : c.toNat < 0x800) :
    decodeFrom offset (encodeChar c ++ rest) =
      (decodeFrom (offset + (encodeChar c).length) rest).map (c :: ·) := by
  have hencode : encodeChar c =
      [(0xC0 + c.toNat / 64).toUInt8, (0x80 + c.toNat % 64).toUInt8] := by
    simp only [encodeChar, if_neg (Nat.not_lt.2 h), if_pos h']
  have hb : (0xC0 + c.toNat / 64).toUInt8.toNat = 0xC0 + c.toNat / 64 := toNat_byte (by omega)
  have hb₁ := toNat_payload c.toNat
  have hlead := lead?_two h h'
  have hlow : 0x80 ≤ (0x80 + c.toNat % 64).toUInt8.toNat := by omega
  have hhigh : (0x80 + c.toNat % 64).toUInt8.toNat ≤ 0xBF := by omega
  have hbits : leadBits (0xC0 + c.toNat / 64) * 64 + (0x80 + c.toNat % 64 - 0x80) = c.toNat := by
    rw [leadBits, if_pos (by omega)]
    omega
  rw [← hb] at hlead
  rw [hencode, List.cons_append, List.singleton_append,
    decodeFrom_two offset rest hlead rfl hlow hhigh, hb, hb₁, hbits, charOf, Char.ofNat_toNat]
  rfl

theorem decodeFrom_encodeChar_three (h : 0x800 ≤ c.toNat) (h' : c.toNat < 0x10000) :
    decodeFrom offset (encodeChar c ++ rest) =
      (decodeFrom (offset + (encodeChar c).length) rest).map (c :: ·) := by
  have hencode : encodeChar c =
      [(0xE0 + c.toNat / 4096).toUInt8, (0x80 + c.toNat / 64 % 64).toUInt8,
        (0x80 + c.toNat % 64).toUInt8] := by
    simp only [encodeChar, if_neg (show ¬c.toNat < 0x80 by omega), if_neg (Nat.not_lt.2 h),
      if_pos h']
  have hb : (0xE0 + c.toNat / 4096).toUInt8.toNat = 0xE0 + c.toNat / 4096 :=
    toNat_byte (by omega)
  have hb₁ := toNat_payload (c.toNat / 64)
  have hb₂ := toNat_payload c.toNat
  obtain ⟨lead, hlead, hmore, hlow, hhigh⟩ :=
    exists_lead?_three h h' ((toNat_bounds c).imp_right And.left)
  have hlast := isContinuation_payload c.toNat
  have hbits : (leadBits (0xE0 + c.toNat / 4096) * 64 + (0x80 + c.toNat / 64 % 64 - 0x80)) * 64 +
      (0x80 + c.toNat % 64 - 0x80) = c.toNat := by
    rw [leadBits, if_neg (by omega), if_pos (by omega)]
    omega
  rw [← hb] at hlead
  rw [← hb₁] at hlow hhigh
  rw [hencode, List.cons_append, List.cons_append, List.singleton_append,
    decodeFrom_three offset rest hlead hmore hlow hhigh hlast, hb, hb₁, hb₂, hbits, charOf,
    Char.ofNat_toNat]
  rfl

theorem decodeFrom_encodeChar_four (h : 0x10000 ≤ c.toNat) :
    decodeFrom offset (encodeChar c ++ rest) =
      (decodeFrom (offset + (encodeChar c).length) rest).map (c :: ·) := by
  have hmax : c.toNat < 0x110000 := by
    have := toNat_bounds c
    omega
  have hencode : encodeChar c =
      [(0xF0 + c.toNat / 262144).toUInt8, (0x80 + c.toNat / 4096 % 64).toUInt8,
        (0x80 + c.toNat / 64 % 64).toUInt8, (0x80 + c.toNat % 64).toUInt8] := by
    simp only [encodeChar, if_neg (show ¬c.toNat < 0x80 by omega),
      if_neg (show ¬c.toNat < 0x800 by omega), if_neg (Nat.not_lt.2 h)]
  have hb : (0xF0 + c.toNat / 262144).toUInt8.toNat = 0xF0 + c.toNat / 262144 :=
    toNat_byte (by omega)
  have hb₁ := toNat_payload (c.toNat / 4096)
  have hb₂ := toNat_payload (c.toNat / 64)
  have hb₃ := toNat_payload c.toNat
  obtain ⟨lead, hlead, hmore, hlow, hhigh⟩ := exists_lead?_four h hmax
  have hthird := isContinuation_payload (c.toNat / 64)
  have hlast := isContinuation_payload c.toNat
  have hbits : ((leadBits (0xF0 + c.toNat / 262144) * 64 +
      (0x80 + c.toNat / 4096 % 64 - 0x80)) * 64 + (0x80 + c.toNat / 64 % 64 - 0x80)) * 64 +
        (0x80 + c.toNat % 64 - 0x80) = c.toNat := by
    rw [leadBits, if_neg (by omega), if_neg (by omega)]
    omega
  rw [← hb] at hlead
  rw [← hb₁] at hlow hhigh
  rw [hencode, List.cons_append, List.cons_append, List.cons_append, List.singleton_append,
    decodeFrom_four offset rest hlead hmore hlow hhigh hthird hlast, hb, hb₁, hb₂, hb₃, hbits,
    charOf, Char.ofNat_toNat]
  rfl

end Character

/-- **The bytes of a character are decoded as that character**, whatever follows them. -/
theorem decodeFrom_encodeChar (c : Char) (offset : Nat) (rest : List UInt8) :
    decodeFrom offset (encodeChar c ++ rest) =
      (decodeFrom (offset + (encodeChar c).length) rest).map (c :: ·) := by
  rcases Nat.lt_or_ge c.toNat 0x80 with hone | hone
  · exact decodeFrom_encodeChar_one offset rest hone
  rcases Nat.lt_or_ge c.toNat 0x800 with htwo | htwo
  · exact decodeFrom_encodeChar_two offset rest hone htwo
  rcases Nat.lt_or_ge c.toNat 0x10000 with hthree | hthree
  · exact decodeFrom_encodeChar_three offset rest htwo hthree
  · exact decodeFrom_encodeChar_four offset rest hthree

/-! ## Decoding a text -/

theorem decodeFrom_encode (text : List Char) (offset : Nat) :
    decodeFrom offset (encode text) = .ok text := by
  induction text generalizing offset with
  | nil => rfl
  | cons c text ih =>
      rw [encode, List.flatMap_cons, decodeFrom_encodeChar, ← encode, ih]
      rfl

/-- **Every text is decoded from its own bytes.** -/
theorem decode_encode (text : List Char) : decode (encode text) = .ok text :=
  decodeFrom_encode text 0

end PackageGate.Text.Utf8
