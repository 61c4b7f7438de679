import PackageGate.Proofs.Source.Stored
import PackageGate.Proofs.Text.Flaws

/-!
# What is read from bytes

A file holds bytes, and every sequence of bytes may be in one. If they are the encoding of a text,
that text is read, with line feeds only. If they are not, there is a longest part of them in front
that is, and what is reported is where it ends and how the bytes fail to go on there (`FailsAt`).

Encodings are those of the standard library here, so that what is read is told without the decoding
that reads it.
-/

namespace PackageGate.Source

open Disk (Path Node assemble)

/-- Bytes that are the encoding of a text. -/
def IsWellFormed (bytes : List UInt8) : Prop :=
  ∃ text : List Char, bytes = text.flatMap String.utf8EncodeChar

theorem isWellFormed_encode (text : List Char) : IsWellFormed (Text.Utf8.encode text) :=
  ⟨text, Text.Utf8.encode_eq text⟩

theorem isWellFormed_iff {bytes : List UInt8} :
    IsWellFormed bytes ↔ ∃ text, bytes = Text.Utf8.encode text := by
  simp only [IsWellFormed, Text.Utf8.encode_eq]

/-- Where bytes cease to be the encoding of a text, and the reason in words. -/
structure FailsAt (bytes : List UInt8) (n : Nat) (reason : String) : Prop where
  lt : n < bytes.length
  /-- In front of the place there is a text, -/
  front : IsWellFormed (bytes.take n)
  /-- and none that ends behind it. -/
  longest : ∀ m, n < m → m ≤ bytes.length → ¬IsWellFormed (bytes.take m)
  /-- No text begins with the byte there. -/
  start_iff : reason = "invalid start byte" ↔
    ∀ whole, IsWellFormed whole → whole.head? ≠ bytes[n]?
  /-- The bytes from there on are the front of a text, but not all of it. -/
  end_iff : reason = "unexpected end of data" ↔
    ∃ whole, IsWellFormed whole ∧ bytes.drop n <+: whole ∧ bytes.drop n ≠ whole
  /-- Neither of the two. -/
  continuation_iff : reason = "invalid continuation byte" ↔
    reason ≠ "invalid start byte" ∧ reason ≠ "unexpected end of data"

/-- Reasons are told apart by their words. -/
theorem message_eq_iff (reason other : Text.Utf8.Reason) :
    reason.message = other.message ↔ reason = other := by
  cases reason <;> cases other <;> decide

theorem message_eq_continuation_iff (reason : Text.Utf8.Reason) :
    reason.message = "invalid continuation byte" ↔
      reason.message ≠ "invalid start byte" ∧ reason.message ≠ "unexpected end of data" := by
  cases reason <;> decide

theorem failsAt_of_decode {bytes : List UInt8} {flaw : Text.Utf8.Flaw}
    (h : Text.Utf8.decode bytes = .error flaw) :
    FailsAt bytes flaw.offset flaw.reason.message := by
  obtain ⟨⟨text, rest, rfl, hoffset, hdamaged⟩, hlongest⟩ := Text.Utf8.decode_error h
  obtain ⟨offset, span, reason⟩ := flaw
  obtain rfl : offset = (Text.Utf8.encode text).length := hoffset
  have hrest : (Text.Utf8.encode text ++ rest)[(Text.Utf8.encode text).length]? = rest.head? := by
    rw [List.getElem?_append_right (Nat.le_refl _), Nat.sub_self, List.head?_eq_getElem?]
  refine ⟨?_, ?_, ?_, ?_, ?_, ?_⟩
  · have hpos := List.length_pos_iff.2 hdamaged.ne_nil
    rw [List.length_append]
    exact Nat.lt_add_of_pos_right hpos
  · rw [List.take_left]
    exact isWellFormed_encode text
  · intro m hm hle hformed
    obtain ⟨front, hfront⟩ := isWellFormed_iff.1 hformed
    have hlength : (Text.Utf8.encode front).length = m := by
      rw [← hfront, List.length_take, Nat.min_eq_left hle]
    have hcut := hlongest front ((Text.Utf8.encode text ++ rest).drop m)
      (by rw [← hfront, List.take_append_drop])
    rw [hlength] at hcut
    exact absurd hm (Nat.not_lt.2 hcut)
  · have hstart : reason.message = "invalid start byte" ↔ reason = .start :=
      message_eq_iff reason .start
    rw [hstart, hdamaged.start_iff, hrest]
    constructor
    · rintro hnone whole hformed
      obtain ⟨other, rfl⟩ := isWellFormed_iff.1 hformed
      exact hnone other
    · intro hnone other
      exact hnone _ (isWellFormed_encode other)
  · have hend : reason.message = "unexpected end of data" ↔ reason = .truncated :=
      message_eq_iff reason .truncated
    rw [hend, hdamaged.truncated_iff, List.drop_left]
    constructor
    · rintro ⟨other, hfront⟩
      exact ⟨_, isWellFormed_encode other, hfront⟩
    · rintro ⟨whole, hformed, hfront⟩
      obtain ⟨other, rfl⟩ := isWellFormed_iff.1 hformed
      exact ⟨other, hfront⟩
  · exact message_eq_continuation_iff reason

/-- **Every sequence of bytes in a file is read as the text that it encodes, with line feeds only,
or it is reported where it ceases to be a text.** -/
theorem read_bytes {disk : Disk} {path : Path} {bytes : List UInt8} (h : Stores disk path bytes) :
    (∀ text, disk.atPath .read path (Source.read disk path) = .ok (.ok text) ↔
        ∃ scalars : List Char, bytes = scalars.flatMap String.utf8EncodeChar
          ∧ text = Text.replace ['\r'] ['\n'] (Text.replace ['\r', '\n'] ['\n'] scalars))
      ∧ (∀ text, disk.atPath .read path (Source.read disk path) = .ok (.ok text) → '\r' ∉ text)
      ∧ (¬IsWellFormed bytes → ∃ problem n reason,
          disk.atPath .read path (Source.read disk path) = .ok (.error problem)
            ∧ problem.message = s!"File is not valid UTF-8 (byte {n}: {reason})"
            ∧ FailsAt bytes n reason) := by
  have hanswer : disk.atPath .read path (Source.read disk path) = .ok (textOf bytes) := by
    rw [Disk.atPath_eq_ok _ _ _ h.hasNoNull, Source.read, h.read]
  rw [hanswer]
  cases hdecode : Text.Utf8.decode bytes with
  | ok scalars =>
      have htext : textOf bytes = .ok (Text.unifyNewlines scalars) := by rw [textOf, hdecode]
      have hbytes := (Text.Utf8.decode_eq_ok_iff bytes scalars).1 hdecode
      rw [htext]
      refine ⟨fun text => ⟨fun heq => ?_, ?_⟩, fun text heq => ?_, fun hnot => ?_⟩
      · cases heq
        exact ⟨scalars, hbytes ▸ Text.Utf8.encode_eq scalars,
          Text.unifyNewlines_eq_replace scalars⟩
      · rintro ⟨other, hother, rfl⟩
        -- no other text has the same encoding
        have hsame : Text.Utf8.decode bytes = .ok other := by
          rw [Text.Utf8.decode_eq_ok_iff, Text.Utf8.encode_eq]
          exact hother
        cases hdecode.symm.trans hsame
        rw [Text.unifyNewlines_eq_replace]
      · cases heq
        exact Text.not_mem_unifyNewlines scalars
      · exact absurd (isWellFormed_iff.2 ⟨scalars, hbytes⟩) hnot
  | error flaw =>
      have htext : textOf bytes = .error (.notText flaw) := by rw [textOf, hdecode]
      rw [htext]
      refine ⟨fun text => ⟨fun heq => (by cases heq), ?_⟩, fun text heq => (by cases heq),
        fun _ => ⟨_, flaw.offset, flaw.reason.message, rfl, rfl, failsAt_of_decode hdecode⟩⟩
      rintro ⟨other, hother, _⟩
      have hsame : Text.Utf8.decode bytes = .ok other := by
        rw [Text.Utf8.decode_eq_ok_iff, Text.Utf8.encode_eq]
        exact hother
      cases hdecode.symm.trans hsame

/-- Bytes of a text with a carriage return in it, and behind it the first two bytes of a character,
but not its third. -/
def brokenBytes : List UInt8 := [0xEF, 0xBB, 0xBF, 0x61, 0x0D, 0xE2, 0x82, 0x41]

/-- A tree in which they are a file. -/
def brokenTree : Node := .directory [("A.cs", .file brokenBytes)]

theorem stores_broken :
    Stores (assemble brokenTree [] []) (Path.ofString "A.cs") brokenBytes := by
  have hplace : Disk.locate brokenTree [] (Path.ofString "A.cs") = .ok ["A.cs"] :=
    locate_name (by decide) (by decide) (show _ = ["A.cs"] by decide) rfl
  exact stores_assemble (by decide) hplace rfl fun fault hfault => absurd hfault List.not_mem_nil

theorem decode_broken : Text.Utf8.decode brokenBytes = .error ⟨5, 2, .continuation⟩ := rfl

theorem read_bytes_broken :
    Stores (assemble brokenTree [] []) (Path.ofString "A.cs") brokenBytes
      ∧ ¬IsWellFormed brokenBytes
      ∧ ∃ problem n reason,
          (assemble brokenTree [] []).atPath .read (Path.ofString "A.cs")
              (Source.read (assemble brokenTree [] []) (Path.ofString "A.cs")) =
              .ok (.error problem)
            ∧ problem.message = s!"File is not valid UTF-8 (byte {n}: {reason})"
            ∧ problem.message = "File is not valid UTF-8 (byte 5: invalid continuation byte)"
            ∧ FailsAt brokenBytes n reason := by
  have hbroken : ¬IsWellFormed brokenBytes := by
    rw [isWellFormed_iff]
    rintro ⟨text, htext⟩
    cases decode_broken.symm.trans ((Text.Utf8.decode_eq_ok_iff _ _).2 htext)
  obtain ⟨_, _, hreported⟩ := read_bytes stores_broken
  obtain ⟨problem, n, reason, hread, hmessage, hfails⟩ := hreported hbroken
  have hproblem : (assemble brokenTree [] []).atPath .read (Path.ofString "A.cs")
      (Source.read (assemble brokenTree [] []) (Path.ofString "A.cs")) =
      .ok (.error (.notText ⟨5, 2, .continuation⟩)) := by
    rw [Disk.atPath_eq_ok _ _ _ stores_broken.hasNoNull, Source.read, stores_broken.read]
    dsimp only
    rw [textOf, decode_broken]
  cases hread.symm.trans hproblem
  exact ⟨stores_broken, hbroken, _, n, reason, hproblem, hmessage, rfl, hfails⟩

end PackageGate.Source
