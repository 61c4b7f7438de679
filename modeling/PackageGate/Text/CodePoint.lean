import PackageGate.Text.Hex

/-!
# Code points

A text is a sequence of characters: the code points without the surrogates. Where code points are
given by their numbers, as escapes do, surrogates may stand alone among them.

The operating system takes bytes. A character has those of its encoding, a surrogate none of its
own. But one row of surrogates stands for the bytes that belong to no character, one for each, so
that a name that is no text has code points all the same.
-/

namespace PackageGate.Text

/-- A code point: a character, or a surrogate, counted from the first one. -/
inductive CodePoint where
  | char (c : Char)
  | surrogate (n : Fin 0x800)
deriving Repr, DecidableEq

namespace CodePoint

/-- Whether a code point stands for bytes. -/
def isEncodable : CodePoint → Bool
  | .char _ => true
  | .surrogate n => 0x480 ≤ n.val && n.val < 0x500

/-- A code point as it is shown: a surrogate by its escape. -/
def shown : CodePoint → List Char
  | .char c => [c]
  | .surrogate n => '\\' :: 'u' :: hex 4 (0xD800 + n.val)

end CodePoint

end PackageGate.Text

namespace PackageGate

open Text (CodePoint)

/-- A text in which surrogates may stand alone. -/
abbrev Points := List CodePoint

namespace Points

/-- The code points of a text. -/
def ofString (text : String) : Points := text.toList.map .char

/-- The text that code points are shown as. -/
def shown (points : Points) : String := String.ofList (points.flatMap CodePoint.shown)

@[simp] theorem shown_ofString (text : String) : (ofString text).shown = text := by
  rw [shown, ofString, List.flatMap_map]
  simp [CodePoint.shown]

theorem char_mem_ofString_iff {c : Char} {text : String} :
    .char c ∈ ofString text ↔ c ∈ text.toList := by
  simp [ofString]

/-- Every text has bytes. -/
theorem isEncodable_of_mem_ofString {text : String} {point : CodePoint}
    (h : point ∈ ofString text) : point.isEncodable = true := by
  obtain ⟨c, _, rfl⟩ := List.mem_map.1 h
  rfl

end Points

end PackageGate
