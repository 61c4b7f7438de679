/-!
# UTF-8

A text is stored as bytes: one to four for each character, where the lead byte tells how many
follow and narrows the range of the second byte, so that no character has two encodings and no
surrogate or number above U+10FFFF has any.

`decode` is strict. At the first place where the bytes stop being well formed it reports how many
bytes came before, how many belong to the damage, and which of three things is wrong there:

* the byte can begin no character;
* the byte begins a character, but one that cannot continue it follows;
* the bytes end in the middle of a character.

`decodeReplacing` never fails: it shows each damage as one replacement character.
-/

namespace PackageGate.Text.Utf8

/-- What is wrong at the first byte that cannot be decoded. -/
inductive Reason where
  | start
  | continuation
  | truncated
deriving Repr, DecidableEq

/-- The wording of a reason. -/
def Reason.message : Reason → String
  | .start => "invalid start byte"
  | .continuation => "invalid continuation byte"
  | .truncated => "unexpected end of data"

/-- The first damage in a byte sequence: where it starts, how many bytes it spans, and what it
is. -/
structure Flaw where
  offset : Nat
  span : Nat
  reason : Reason
deriving Repr, DecidableEq

/-- The kinds of lead bytes of longer encodings, with the range of the second byte and the number
of bytes behind that one. -/
structure Lead where
  low : Nat
  high : Nat
  more : Nat
deriving Repr, DecidableEq

/-- The lead bytes of encodings of two to four bytes. -/
def lead? (b : Nat) : Option Lead :=
  if b < 0xC2 then none
  else if b < 0xE0 then some ⟨0x80, 0xBF, 0⟩
  else if b = 0xE0 then some ⟨0xA0, 0xBF, 1⟩
  else if b = 0xED then some ⟨0x80, 0x9F, 1⟩
  else if b < 0xF0 then some ⟨0x80, 0xBF, 1⟩
  else if b = 0xF0 then some ⟨0x90, 0xBF, 2⟩
  else if b < 0xF4 then some ⟨0x80, 0xBF, 2⟩
  else if b = 0xF4 then some ⟨0x80, 0x8F, 2⟩
  else none

/-- The payload of a lead byte. -/
def leadBits (b : Nat) : Nat :=
  if b < 0xE0 then b - 0xC0 else if b < 0xF0 then b - 0xE0 else b - 0xF0

/-- Whether a byte may stand at the third or fourth place of an encoding. -/
def isContinuation (b : Nat) : Bool := 0x80 ≤ b && b ≤ 0xBF

/-- The character of a scalar value. -/
def charOf (n : Nat) : Char := Char.ofNat n

/-- Decodes bytes that start `offset` bytes into the data. -/
def decodeFrom (offset : Nat) : List UInt8 → Except Flaw (List Char)
  | [] => .ok []
  | b :: rest =>
    if b.toNat < 0x80 then (decodeFrom (offset + 1) rest).map (charOf b.toNat :: ·)
    else match lead? b.toNat with
      | none => .error ⟨offset, 1, .start⟩
      | some lead =>
        match rest with
        | [] => .error ⟨offset, 1, .truncated⟩
        | b₁ :: rest₁ =>
          if b₁.toNat < lead.low || lead.high < b₁.toNat then .error ⟨offset, 1, .continuation⟩
          else
            let bits := leadBits b.toNat * 64 + (b₁.toNat - 0x80)
            if lead.more = 0 then (decodeFrom (offset + 2) rest₁).map (charOf bits :: ·)
            else match rest₁ with
              | [] => .error ⟨offset, 2, .truncated⟩
              | b₂ :: rest₂ =>
                if !isContinuation b₂.toNat then .error ⟨offset, 2, .continuation⟩
                else
                  let bits := bits * 64 + (b₂.toNat - 0x80)
                  if lead.more = 1 then (decodeFrom (offset + 3) rest₂).map (charOf bits :: ·)
                  else match rest₂ with
                    | [] => .error ⟨offset, 3, .truncated⟩
                    | b₃ :: rest₃ =>
                      if !isContinuation b₃.toNat then .error ⟨offset, 3, .continuation⟩
                      else
                        let bits := bits * 64 + (b₃.toNat - 0x80)
                        (decodeFrom (offset + 4) rest₃).map (charOf bits :: ·)

/-- The text that the bytes encode, or the first flaw in them. -/
def decode (bytes : List UInt8) : Except Flaw (List Char) := decodeFrom 0 bytes

/-- The character that stands for damaged bytes. -/
def replacement : Char := '\ufffd'

/-- The text that the bytes encode, where each flaw shows as the replacement character. A flaw spans
at least one byte. -/
def decodeReplacing : List UInt8 → List Char
  | [] => []
  | b :: rest =>
    match decode (b :: rest) with
    | .ok text => text
    | .error flaw =>
      let sound := match decode ((b :: rest).take flaw.offset) with
        | .ok text => text
        | .error _ => []
      sound ++ replacement :: decodeReplacing (rest.drop (flaw.offset + flaw.span - 1))
termination_by bytes => bytes.length
decreasing_by simp only [List.length_drop, List.length_cons]; omega

/-- Where nothing is damaged, nothing is replaced. -/
theorem decodeReplacing_of_decode {bytes : List UInt8} {text : List Char}
    (h : decode bytes = .ok text) : decodeReplacing bytes = text := by
  cases bytes with
  | nil => simpa [decode, decodeFrom, decodeReplacing] using h
  | cons b rest => simp [decodeReplacing, h]

/-- The bytes of one character. -/
def encodeChar (c : Char) : List UInt8 :=
  let n := c.toNat
  if n < 0x80 then [n.toUInt8]
  else if n < 0x800 then [(0xC0 + n / 64).toUInt8, (0x80 + n % 64).toUInt8]
  else if n < 0x10000 then
    [(0xE0 + n / 4096).toUInt8, (0x80 + n / 64 % 64).toUInt8, (0x80 + n % 64).toUInt8]
  else
    [(0xF0 + n / 262144).toUInt8, (0x80 + n / 4096 % 64).toUInt8, (0x80 + n / 64 % 64).toUInt8,
      (0x80 + n % 64).toUInt8]

/-- The bytes of a text. -/
def encode (text : List Char) : List UInt8 := text.flatMap encodeChar

/-- How many bytes a text takes. -/
def size (text : List Char) : Nat := (encode text).length

end PackageGate.Text.Utf8
