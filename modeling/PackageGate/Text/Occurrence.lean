/-!
# Where one text occurs in another

Markers, keywords and delimiters are looked for as literal pieces of text. Two questions are
asked: does a piece occur at all, and how often does it occur when the occurrences counted may not
overlap. The count is made from left to right, each time going on behind the occurrence found.

The empty piece occurs everywhere: before each character and once more at the end.
-/

namespace PackageGate.Text

/-- Whether `piece` occurs in the text, at any position. -/
def occurs (piece : List Char) : List Char → Bool
  | [] => piece.isEmpty
  | c :: rest => piece.isPrefixOf (c :: rest) || occurs piece rest

/-- Whether `piece` occurs in the string `text`. -/
def contains (text piece : String) : Bool := occurs piece.toList text.toList

/-- The number of occurrences found from left to right, where the first `skip` characters belong
to the occurrence found last. -/
def countFrom (piece : List Char) : Nat → List Char → Nat
  | _, [] => 0
  | skip + 1, _ :: rest => countFrom piece skip rest
  | 0, c :: rest =>
    if piece.isPrefixOf (c :: rest) then 1 + countFrom piece (piece.length - 1) rest
    else countFrom piece 0 rest

/-- How many times `piece` occurs in the text without overlap. The empty piece occurs once more
than the text has characters. -/
def count (piece text : List Char) : Nat :=
  if piece.isEmpty then text.length + 1 else countFrom piece 0 text

/-- An occurrence splits the text in three. -/
theorem occurs_iff_isInfix (piece : List Char) :
    ∀ text : List Char, occurs piece text = true ↔ piece <:+: text
  | [] => by cases piece <;> simp [occurs]
  | c :: rest => by
    rw [occurs, Bool.or_eq_true, occurs_iff_isInfix piece rest, List.isPrefixOf_iff_prefix,
      List.infix_cons_iff]

@[simp] theorem occurs_nil_piece (text : List Char) : occurs [] text = true := by
  cases text <;> simp [occurs]

theorem contains_iff {text piece : String} :
    contains text piece = true ↔ piece.toList <:+: text.toList :=
  occurs_iff_isInfix _ _

end PackageGate.Text
