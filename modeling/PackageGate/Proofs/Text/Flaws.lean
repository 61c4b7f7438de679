import Mathlib.Data.List.Basic
import PackageGate.Proofs.Text.Utf8

/-!
# Where bytes stop being a text

Bytes begin with those of a character, or they are damaged in front (`exists_char_or_damaged`). The
damage is of one of three kinds. Two of them stay whatever follows: a byte that no character begins
with, and a byte that does not go on with what was begun. The third is that the bytes end too early.
Then more bytes would make them those of a character (`exists_encodeChar`): the least second byte
that the lead byte allows, and zero bits behind it.

Decoding takes the characters in front one after the other, until nothing is left or what is left is
damaged (`decodeFrom_outcome`). It cannot stop too early, since decoding goes on behind any
encoding of a text in front (`length_le_offset`), so where it stops is the end of the longest
part in front that is a text.
-/

namespace PackageGate.Text.Utf8

/-! ## Bytes of characters -/

/-- Every number that is no surrogate and not too great is that of a character. -/
theorem exists_toNat_eq {n : Nat} (h : n < 0xD800 ∨ 0xDFFF < n ∧ n < 0x110000) :
    ∃ c : Char, c.toNat = n :=
  ⟨Char.ofNatAux n h, rfl⟩

/-- What a lead byte says: the range of the second byte, and how many bytes come behind that one. -/
theorem lead?_cases {n : Nat} {lead : Lead} (h : lead? n = some lead) :
    0x80 ≤ lead.low ∧ lead.low ≤ lead.high ∧ lead.high ≤ 0xBF
      ∧ (0xC2 ≤ n ∧ n < 0xE0 ∧ lead.more = 0
        ∨ 0xE0 ≤ n ∧ n < 0xF0 ∧ lead.more = 1 ∧ (n = 0xE0 → 0xA0 ≤ lead.low)
            ∧ (n = 0xED → lead.high ≤ 0x9F)
        ∨ 0xF0 ≤ n ∧ n < 0xF5 ∧ lead.more = 2 ∧ (n = 0xF0 → 0x90 ≤ lead.low)
            ∧ (n = 0xF4 → lead.high ≤ 0x8F)) := by
  rw [lead?] at h
  repeat' split at h
  all_goals cases h
  all_goals dsimp only; omega

theorem toUInt8_eq {b : UInt8} {n : Nat} (h : n = b.toNat) : n.toUInt8 = b := by
  subst h
  exact UInt8.ofNat_toNat

theorem isContinuation_iff {n : Nat} : isContinuation n = true ↔ 0x80 ≤ n ∧ n ≤ 0xBF := by
  rw [isContinuation, Bool.and_eq_true, decide_eq_true_eq, decide_eq_true_eq]

/-- A lead byte and bytes in their ranges, as many as it asks for, are those of a character. -/
theorem exists_encodeChar {b b₁ : UInt8} {lead : Lead} (h : lead? b.toNat = some lead)
    (hlow : lead.low ≤ b₁.toNat) (hhigh : b₁.toNat ≤ lead.high) {tail : List UInt8}
    (hlength : tail.length = lead.more) (htail : ∀ t ∈ tail, isContinuation t.toNat = true) :
    ∃ c, encodeChar c = b :: b₁ :: tail := by
  obtain ⟨hl, _, hh, ⟨hb, hb', hmore⟩ | ⟨hb, hb', hmore, hcut, hcut'⟩ |
    ⟨hb, hb', hmore, hcut, hcut'⟩⟩ := lead?_cases h
  · obtain rfl := List.length_eq_zero_iff.1 (hlength.trans hmore)
    obtain ⟨c, hc⟩ := @exists_toNat_eq ((b.toNat - 0xC0) * 64 + (b₁.toNat - 0x80)) (by omega)
    refine ⟨c, ?_⟩
    have hlead : (0xC0 + c.toNat / 64).toUInt8 = b := toUInt8_eq (by omega)
    have hsecond : (0x80 + c.toNat % 64).toUInt8 = b₁ := toUInt8_eq (by omega)
    rw [encodeChar, if_neg (by omega), if_pos (by omega), hlead, hsecond]
  · obtain ⟨b₂, rfl⟩ := List.length_eq_one_iff.1 (hlength.trans hmore)
    obtain ⟨h₂, h₂'⟩ := isContinuation_iff.1 (htail b₂ List.mem_cons_self)
    obtain ⟨c, hc⟩ := @exists_toNat_eq
      ((b.toNat - 0xE0) * 4096 + (b₁.toNat - 0x80) * 64 + (b₂.toNat - 0x80)) (by omega)
    refine ⟨c, ?_⟩
    have hlead : (0xE0 + c.toNat / 4096).toUInt8 = b := toUInt8_eq (by omega)
    have hsecond : (0x80 + c.toNat / 64 % 64).toUInt8 = b₁ := toUInt8_eq (by omega)
    have hthird : (0x80 + c.toNat % 64).toUInt8 = b₂ := toUInt8_eq (by omega)
    rw [encodeChar, if_neg (by omega), if_neg (by omega), if_pos (by omega), hlead, hsecond, hthird]
  · obtain ⟨b₂, b₃, rfl⟩ := List.length_eq_two.1 (hlength.trans hmore)
    obtain ⟨h₂, h₂'⟩ := isContinuation_iff.1 (htail b₂ List.mem_cons_self)
    obtain ⟨h₃, h₃'⟩ := isContinuation_iff.1 (htail b₃ (List.mem_cons_of_mem _ List.mem_cons_self))
    obtain ⟨c, hc⟩ := @exists_toNat_eq ((b.toNat - 0xF0) * 262144 + (b₁.toNat - 0x80) * 4096 +
      (b₂.toNat - 0x80) * 64 + (b₃.toNat - 0x80)) (by omega)
    refine ⟨c, ?_⟩
    have hlead : (0xF0 + c.toNat / 262144).toUInt8 = b := toUInt8_eq (by omega)
    have hsecond : (0x80 + c.toNat / 4096 % 64).toUInt8 = b₁ := toUInt8_eq (by omega)
    have hthird : (0x80 + c.toNat / 64 % 64).toUInt8 = b₂ := toUInt8_eq (by omega)
    have hfourth : (0x80 + c.toNat % 64).toUInt8 = b₃ := toUInt8_eq (by omega)
    rw [encodeChar, if_neg (by omega), if_neg (by omega), if_neg (by omega), hlead, hsecond, hthird,
      hfourth]

/-- The bytes of a character are those of the standard library. -/
theorem encodeChar_eq (c : Char) : encodeChar c = String.utf8EncodeChar c := by
  have hmax : c.toNat < 0x110000 := by
    have := toNat_bounds c
    omega
  rw [encodeChar, String.utf8EncodeChar]
  show _ = if c.toNat ≤ 0x7f then _ else if c.toNat ≤ 0x7ff then _
    else if c.toNat ≤ 0xffff then _ else _
  by_cases hone : c.toNat < 0x80
  · rw [if_pos hone, if_pos (by omega)]
    rfl
  by_cases htwo : c.toNat < 0x800
  · have hlead : 0xC0 + c.toNat / 64 = c.toNat / 64 % 32 + 0xC0 := by omega
    rw [if_neg hone, if_pos htwo, if_neg (by omega), if_pos (by omega), hlead, Nat.add_comm 0x80]
    rfl
  by_cases hthree : c.toNat < 0x10000
  · have hlead : 0xE0 + c.toNat / 4096 = c.toNat / 4096 % 16 + 0xE0 := by omega
    rw [if_neg hone, if_neg htwo, if_pos hthree, if_neg (by omega), if_neg (by omega),
      if_pos (by omega), hlead, Nat.add_comm 0x80, Nat.add_comm 0x80]
    rfl
  · have hlead : 0xF0 + c.toNat / 262144 = c.toNat / 262144 % 8 + 0xF0 := by omega
    rw [if_neg hone, if_neg htwo, if_neg hthree, if_neg (by omega), if_neg (by omega),
      if_neg (by omega), hlead, Nat.add_comm 0x80, Nat.add_comm 0x80, Nat.add_comm 0x80]
    rfl

theorem encode_eq (text : List Char) : encode text = text.flatMap String.utf8EncodeChar := by
  rw [encode, funext encodeChar_eq]

/-- What a lead byte and a second byte in its range begin can be completed. -/
theorem exists_encodeChar_second {b b₁ : UInt8} {lead : Lead} (h : lead? b.toNat = some lead)
    (hlow : lead.low ≤ b₁.toNat) (hhigh : b₁.toNat ≤ lead.high) :
    ∃ c more, encodeChar c = b :: b₁ :: more ∧ more.length = lead.more := by
  have hzeros : ∀ t ∈ List.replicate lead.more (0x80 : UInt8), isContinuation t.toNat = true := by
    intro t ht
    rw [List.eq_of_mem_replicate ht]
    rfl
  obtain ⟨c, hc⟩ := exists_encodeChar h hlow hhigh List.length_replicate hzeros
  exact ⟨c, _, hc, List.length_replicate⟩

/-- What a lead byte begins can be completed. -/
theorem exists_encodeChar_lead {b : UInt8} {lead : Lead} (h : lead? b.toNat = some lead) :
    ∃ c b₁ more, encodeChar c = b :: b₁ :: more := by
  obtain ⟨_, hrange, hhigh, _⟩ := lead?_cases h
  have hlow : lead.low.toUInt8.toNat = lead.low := toNat_byte (by omega)
  obtain ⟨c, more, hc, _⟩ := exists_encodeChar_second h (Nat.le_of_eq hlow.symm) (by omega)
  exact ⟨c, _, more, hc⟩

theorem encode_cons (c : Char) (text : List Char) :
    encode (c :: text) = encodeChar c ++ encode text := List.flatMap_cons

theorem encode_singleton (c : Char) : encode [c] = encodeChar c := List.flatMap_singleton _ _

/-! ## Damaged bytes -/

/-- Decoding stops at the first of some bytes, whatever follows them. -/
def Stops (bytes : List UInt8) (span : Nat) (reason : Reason) : Prop :=
  ∀ offset more, decodeFrom offset (bytes ++ more) = .error ⟨offset, span, reason⟩

/-- Bytes that begin with no whole character. -/
inductive Damaged : List UInt8 → Nat → Reason → Prop where
  /-- No character begins with the first byte. -/
  | start {b : UInt8} {rest : List UInt8} : Stops [b] 1 .start → Damaged (b :: rest) 1 .start
  /-- The first byte begins a character, but the bytes do not go on as one. -/
  | continuation {b : UInt8} {rest more : List UInt8} {span : Nat} {c : Char} :
      encodeChar c = b :: more → Stops (b :: rest) span .continuation →
      Damaged (b :: rest) span .continuation
  /-- The bytes are the front of a character. -/
  | truncated {b : UInt8} {rest more : List UInt8} {span : Nat} {c : Char} :
      encodeChar c = b :: rest ++ more → more ≠ [] →
      (∀ offset, decodeFrom offset (b :: rest) = .error ⟨offset, span, .truncated⟩) →
      Damaged (b :: rest) span .truncated

section Damaged

variable {b b₁ b₂ b₃ : UInt8} {lead : Lead} (rest : List UInt8)

theorem damaged_start (hone : ¬b.toNat < 0x80) (h : lead? b.toNat = none) :
    Damaged (b :: rest) 1 .start := by
  refine .start fun offset more => ?_
  rw [List.singleton_append, decodeFrom, if_neg hone, h]

theorem damaged_one (h : lead? b.toNat = some lead) : Damaged [b] 1 .truncated := by
  obtain ⟨c, b₁, more, hc⟩ := exists_encodeChar_lead h
  refine .truncated hc (List.cons_ne_nil b₁ more) fun offset => ?_
  rw [decodeFrom, if_neg (not_lt_of_lead? h), h]

theorem damaged_second (h : lead? b.toNat = some lead)
    (hrange : (b₁.toNat < lead.low || lead.high < b₁.toNat) = true) :
    Damaged (b :: b₁ :: rest) 1 .continuation := by
  obtain ⟨c, _, more, hc⟩ := exists_encodeChar_lead h
  refine .continuation hc fun offset more => ?_
  rw [List.cons_append, List.cons_append, decodeFrom, if_neg (not_lt_of_lead? h), h]
  dsimp only
  rw [if_pos hrange]

section Second

variable (h : lead? b.toNat = some lead) (hlow : lead.low ≤ b₁.toNat)
  (hhigh : b₁.toNat ≤ lead.high)

include h hlow hhigh

theorem damaged_two (hmore : lead.more ≠ 0) : Damaged [b, b₁] 2 .truncated := by
  obtain ⟨c, more, hc, hlength⟩ := exists_encodeChar_second h hlow hhigh
  have hne : more ≠ [] := by
    rintro rfl
    exact hmore hlength.symm
  refine .truncated hc hne fun offset => ?_
  rw [decodeFrom, if_neg (not_lt_of_lead? h), h]
  simp only [inRange hlow hhigh, hmore, Bool.false_eq_true, if_false]

theorem damaged_third (hmore : lead.more ≠ 0) (h₂ : isContinuation b₂.toNat = false) :
    Damaged (b :: b₁ :: b₂ :: rest) 2 .continuation := by
  obtain ⟨c, more, hc, _⟩ := exists_encodeChar_second h hlow hhigh
  refine .continuation hc fun offset more => ?_
  simp only [List.cons_append]
  rw [decodeFrom, if_neg (not_lt_of_lead? h), h]
  simp only [inRange hlow hhigh, hmore, h₂, Bool.false_eq_true, Bool.not_false, if_false, if_true]

theorem damaged_three (hmore : lead.more = 2) (h₂ : isContinuation b₂.toNat = true) :
    Damaged [b, b₁, b₂] 3 .truncated := by
  have htail : ∀ t ∈ [b₂, 0x80], isContinuation t.toNat = true := by
    rw [List.forall_mem_cons, List.forall_mem_singleton]
    exact ⟨h₂, by decide⟩
  obtain ⟨c, hc⟩ := exists_encodeChar h hlow hhigh (hmore ▸ rfl) htail
  refine .truncated hc (List.cons_ne_nil _ _) fun offset => ?_
  rw [decodeFrom, if_neg (not_lt_of_lead? h), h]
  simp only [inRange hlow hhigh, hmore, h₂, Bool.false_eq_true, Bool.not_true, if_false,
    if_neg (show ¬2 = 0 by decide), if_neg (show ¬2 = 1 by decide)]

theorem damaged_fourth (hmore : lead.more = 2) (h₂ : isContinuation b₂.toNat = true)
    (h₃ : isContinuation b₃.toNat = false) :
    Damaged (b :: b₁ :: b₂ :: b₃ :: rest) 3 .continuation := by
  obtain ⟨c, more, hc, _⟩ := exists_encodeChar_second h hlow hhigh
  refine .continuation hc fun offset more => ?_
  simp only [List.cons_append]
  rw [decodeFrom, if_neg (not_lt_of_lead? h), h]
  simp only [inRange hlow hhigh, hmore, h₂, h₃, Bool.false_eq_true, Bool.not_true, Bool.not_false,
    if_false, if_true, if_neg (show ¬2 = 0 by decide), if_neg (show ¬2 = 1 by decide)]

/-- With a second byte in its range, the bytes behind it decide. -/
theorem exists_char_or_damaged_second :
    (∃ c more, b :: b₁ :: rest = encodeChar c ++ more)
      ∨ ∃ span reason, Damaged (b :: b₁ :: rest) span reason := by
  have hwhole : ∀ tail more, rest = tail ++ more → tail.length = lead.more →
      (∀ t ∈ tail, isContinuation t.toNat = true) →
      ∃ c more, b :: b₁ :: rest = encodeChar c ++ more := by
    rintro tail more rfl hlength htail
    obtain ⟨c, hc⟩ := exists_encodeChar h hlow hhigh hlength htail
    exact ⟨c, more, by rw [hc, List.cons_append, List.cons_append]⟩
  by_cases hzero : lead.more = 0
  · exact .inl (hwhole [] rest rfl hzero.symm fun t ht => absurd ht List.not_mem_nil)
  cases rest with
  | nil => exact .inr ⟨_, _, damaged_two h hlow hhigh hzero⟩
  | cons b₂ rest =>
      cases h₂ : isContinuation b₂.toNat with
      | false => exact .inr ⟨_, _, damaged_third rest h hlow hhigh hzero h₂⟩
      | true =>
          by_cases hone : lead.more = 1
          · refine .inl (hwhole [b₂] rest rfl hone.symm ?_)
            rw [List.forall_mem_singleton]
            exact h₂
          have htwo : lead.more = 2 := by
            obtain ⟨_, _, _, hmores⟩ := lead?_cases h
            omega
          cases rest with
          | nil => exact .inr ⟨_, _, damaged_three h hlow hhigh htwo h₂⟩
          | cons b₃ rest =>
              cases h₃ : isContinuation b₃.toNat with
              | false => exact .inr ⟨_, _, damaged_fourth rest h hlow hhigh htwo h₂ h₃⟩
              | true =>
                  refine .inl (hwhole [b₂, b₃] rest rfl htwo.symm ?_)
                  rw [List.forall_mem_cons, List.forall_mem_singleton]
                  exact ⟨h₂, h₃⟩

end Second

end Damaged

/-- **Bytes begin with those of a character, or they are damaged in front.** -/
theorem exists_char_or_damaged (b : UInt8) (rest : List UInt8) :
    (∃ c more, b :: rest = encodeChar c ++ more) ∨
      ∃ span reason, Damaged (b :: rest) span reason := by
  by_cases hone : b.toNat < 0x80
  · obtain ⟨c, hc⟩ := exists_toNat_eq (.inl (Nat.lt_trans hone (by decide)))
    have hencode : encodeChar c = [b] := by
      rw [encodeChar, if_pos (by omega), toUInt8_eq hc]
    exact .inl ⟨c, rest, by rw [hencode, List.singleton_append]⟩
  cases hlead : lead? b.toNat with
  | none => exact .inr ⟨_, _, damaged_start rest hone hlead⟩
  | some lead =>
      cases rest with
      | nil => exact .inr ⟨_, _, damaged_one hlead⟩
      | cons b₁ rest =>
          cases hrange : (b₁.toNat < lead.low || lead.high < b₁.toNat : Bool) with
          | true => exact .inr ⟨_, _, damaged_second rest hlead hrange⟩
          | false =>
              rw [Bool.or_eq_false_iff, decide_eq_false_iff_not, decide_eq_false_iff_not] at hrange
              exact exists_char_or_damaged_second rest hlead (Nat.le_of_not_lt hrange.1)
                (Nat.le_of_not_lt hrange.2)

/-! ## What damage says -/

theorem Damaged.ne_nil {bytes : List UInt8} {span : Nat} {reason : Reason}
    (h : Damaged bytes span reason) : bytes ≠ [] := by
  cases h <;> exact List.cons_ne_nil _ _

theorem Damaged.decodeFrom_eq {bytes : List UInt8} {span : Nat} {reason : Reason}
    (h : Damaged bytes span reason) (offset : Nat) :
    decodeFrom offset bytes = .error ⟨offset, span, reason⟩ := by
  cases h with
  | @start b rest hstops => exact hstops offset rest
  | @continuation b rest more span c _ hstops =>
      have h := hstops offset []
      rwa [List.append_nil] at h
  | truncated _ _ hend => exact hend offset

/-- Bytes at which decoding stops whatever follows are in front of no text. -/
theorem Stops.not_prefix {bytes : List UInt8} {span : Nat} {reason : Reason}
    (h : Stops bytes span reason) (text : List Char) : ¬bytes <+: encode text := by
  rintro ⟨more, hmore⟩
  have hdecode := decode_encode text
  rw [← hmore, decode, h 0 more] at hdecode
  cases hdecode

/-- No text begins with the first byte exactly if the reason is that byte. -/
theorem Damaged.start_iff {bytes : List UInt8} {span : Nat} {reason : Reason}
    (h : Damaged bytes span reason) :
    reason = .start ↔ ∀ text, (encode text).head? ≠ bytes.head? := by
  cases h with
  | @start b rest hstops =>
      refine ⟨fun _ text htext => ?_, fun _ => rfl⟩
      cases hencode : encode text with
      | nil =>
          rw [hencode] at htext
          cases htext
      | cons d more =>
          rw [hencode] at htext
          cases htext
          exact hstops.not_prefix text ⟨more, hencode.symm⟩
  | @continuation b rest more span c hc hstops =>
      refine ⟨fun h => (by cases h), fun h => absurd ?_ (h [c])⟩
      rw [encode_singleton, hc, List.head?_cons, List.head?_cons]
  | @truncated b rest more span c hc hmore hend =>
      refine ⟨fun h => (by cases h), fun h => absurd ?_ (h [c])⟩
      rw [encode_singleton, hc, List.cons_append, List.head?_cons, List.head?_cons]

/-- The bytes are the front of a text that goes on exactly if the reason is that they end. -/
theorem Damaged.truncated_iff {bytes : List UInt8} {span : Nat} {reason : Reason}
    (h : Damaged bytes span reason) :
    reason = .truncated ↔ ∃ text, bytes <+: encode text ∧ bytes ≠ encode text := by
  cases h with
  | @start b rest hstops =>
      refine ⟨fun h => (by cases h), ?_⟩
      rintro ⟨text, ⟨more, hmore⟩, _⟩
      exact absurd ⟨rest ++ more, hmore⟩ (hstops.not_prefix text)
  | continuation _ hstops =>
      refine ⟨fun h => (by cases h), ?_⟩
      rintro ⟨text, hprefix, _⟩
      exact absurd hprefix (hstops.not_prefix text)
  | @truncated b rest more span c hc hmore hend =>
      refine ⟨fun _ => ⟨[c], ?_, ?_⟩, fun _ => rfl⟩
      · rw [encode_singleton, hc]
        exact List.prefix_append _ _
      · rw [encode_singleton, hc]
        intro hself
        exact hmore (List.append_right_eq_self.1 hself.symm)

/-! ## Decoding -/

/-- **Decoding takes the characters in front of the damage.** -/
theorem decodeFrom_outcome (bytes : List UInt8) (offset : Nat) :
    (∃ text, bytes = encode text ∧ decodeFrom offset bytes = .ok text)
      ∨ ∃ text rest span reason, bytes = encode text ++ rest ∧ Damaged rest span reason
        ∧ decodeFrom offset bytes = .error ⟨offset + (encode text).length, span, reason⟩ := by
  induction hlength : bytes.length using Nat.strongRecOn generalizing bytes offset with
  | ind n ih =>
    subst hlength
    cases bytes with
    | nil => exact .inl ⟨[], rfl, rfl⟩
    | cons b rest =>
        rcases exists_char_or_damaged b rest with ⟨c, more, hbytes⟩ | ⟨span, reason, hdamaged⟩
        · have hshorter : more.length < (b :: rest).length := by
            have hpos : 0 < (encodeChar c).length := by
              rw [encodeChar_eq]
              exact List.length_pos_iff.2 String.utf8EncodeChar_ne_nil
            rw [hbytes, List.length_append]
            omega
          rw [hbytes, decodeFrom_encodeChar]
          rcases ih _ hshorter more _ rfl with
            ⟨text, rfl, hdecode⟩ | ⟨text, rest, span, reason, rfl, hdamaged, hdecode⟩
          · exact .inl ⟨c :: text, (encode_cons c text).symm, by rw [hdecode]; rfl⟩
          · refine .inr ⟨c :: text, rest, span, reason, ?_, hdamaged, ?_⟩
            · rw [encode_cons, List.append_assoc]
            · rw [hdecode, encode_cons, List.length_append, ← Nat.add_assoc]
              rfl
        · exact .inr ⟨[], b :: rest, span, reason, rfl, hdamaged, hdamaged.decodeFrom_eq offset⟩

/-- Decoding does not stop within a text in front. -/
theorem length_le_offset {text : List Char} {rest : List UInt8} {offset : Nat} {flaw : Flaw}
    (h : decodeFrom offset (encode text ++ rest) = .error flaw) :
    offset + (encode text).length ≤ flaw.offset := by
  induction text generalizing offset flaw with
  | nil =>
      rcases decodeFrom_outcome rest offset with ⟨_, _, hok⟩ | ⟨front, _, _, _, _, _, herror⟩
      · rw [encode, List.flatMap_nil, List.nil_append, hok] at h
        cases h
      · rw [encode, List.flatMap_nil, List.nil_append, herror] at h
        cases h
        exact Nat.add_le_add_left (Nat.zero_le _) offset
  | cons c text ih =>
      rw [encode_cons, List.append_assoc, decodeFrom_encodeChar] at h
      cases hrest : decodeFrom (offset + (encodeChar c).length) (encode text ++ rest) with
      | ok _ =>
          rw [hrest] at h
          cases h
      | error inner =>
          rw [hrest] at h
          cases h
          have hinner := ih hrest
          rw [encode_cons, List.length_append]
          omega

/-- **Where decoding stops, the longest part in front that is a text ends, and what is left is
damaged.** -/
theorem decode_error {bytes : List UInt8} {flaw : Flaw} (h : decode bytes = .error flaw) :
    (∃ text rest, bytes = encode text ++ rest ∧ flaw.offset = (encode text).length
        ∧ Damaged rest flaw.span flaw.reason)
      ∧ ∀ text rest, bytes = encode text ++ rest → (encode text).length ≤ flaw.offset := by
  constructor
  · rcases decodeFrom_outcome bytes 0 with
      ⟨_, _, hok⟩ | ⟨text, rest, _, _, hbytes, hdamaged, herror⟩
    · rw [decode, hok] at h
      cases h
    · rw [decode, herror] at h
      cases h
      exact ⟨text, rest, hbytes, Nat.zero_add _, hdamaged⟩
  · rintro text rest rfl
    have hle := length_le_offset h
    rwa [Nat.zero_add] at hle

theorem decode_eq_ok_iff (bytes : List UInt8) (text : List Char) :
    decode bytes = .ok text ↔ bytes = encode text := by
  constructor
  · intro h
    rcases decodeFrom_outcome bytes 0 with ⟨text', hbytes, hok⟩ | ⟨_, _, _, _, _, _, herror⟩
    · rw [decode, hok] at h
      cases h
      exact hbytes
    · rw [decode, herror] at h
      cases h
  · rintro rfl
    exact decode_encode text

end PackageGate.Text.Utf8
