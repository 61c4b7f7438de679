import PackageGate.Markup.Piece

/-!
# Escaping

A text that is to be shown as it is goes through `escape` before it is put into marked-up text. The
backslashes in front of each of its tags are doubled and one more is added, which makes the tag
plain. A single backslash at the end is doubled, so that it does not make a following tag plain.
-/

namespace PackageGate.Markup

/-- A piece made plain. -/
def Piece.plain : Piece → List Char
  | .tag n body => slashes (2 * n + 1) ++ '[' :: body ++ [']']
  | other => other.written

/-- Whether a text ends with exactly one backslash. -/
def endsWithSlash (text : List Char) : Bool :=
  match text.reverse with
  | '\\' :: '\\' :: _ => false
  | '\\' :: _ => true
  | _ => false

/-- The marked-up text that shows a text. -/
def escape (text : List Char) : List Char :=
  let plain := (split text).flatMap (·.plain)
  if endsWithSlash plain then plain ++ ['\\'] else plain

end PackageGate.Markup
