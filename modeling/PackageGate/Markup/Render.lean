import PackageGate.Markup.Piece
import PackageGate.Markup.Style

/-!
# Reading marked-up text

Of the backslashes in front of a tag every second one is shown. If their number is odd, the tag is
plain text; otherwise it opens a style or, with a slash in front, closes the style of that name that
was opened last, or just the last one if it gives no name. A backslash in front of a bracket that
opens no tag is not shown. Styles that are never closed go on to the end.

A closing tag without a style to close is a mistake.
-/

namespace PackageGate.Markup

/-- What is wrong with marked-up text. -/
inductive Mistake where
  /-- No style of the name is open. -/
  | unmatched (body : List Char) (position : Nat)
  /-- No style is open at all. -/
  | nothingOpen (position : Nat)
deriving Repr, DecidableEq

/-- The wording of a mistake. -/
def Mistake.message : Mistake → String
  | .unmatched body position =>
    s!"closing tag '[{String.ofList body}]' at position {position} doesn't match any open tag"
  | .nothingOpen position => s!"closing tag '[/]' at position {position} has nothing to close"

/-- What marked-up text says: something is shown, or a tag stands at a position. -/
inductive Saying where
  | shown (text : List Char)
  | tag (body : List Char) (position : Nat)
deriving Repr, DecidableEq

/-- What a piece at a position says. -/
def Piece.sayings (position : Nat) : Piece → List Saying
  | .char c => [.shown [c]]
  | .bracket n => [.shown (slashes (n - 1) ++ ['['])]
  | .tag n body =>
    .shown (slashes (n / 2)) ::
      [if n % 2 = 1 then .shown ('[' :: body ++ [']']) else .tag body (position + n)]

/-- What the pieces from a position on say. -/
def sayingsFrom (position : Nat) : List Piece → List Saying
  | [] => []
  | p :: rest => p.sayings position ++ sayingsFrom (position + p.written.length) rest

/-- What marked-up text says. -/
def sayings (text : List Char) : List Saying := sayingsFrom 0 (split text)

/-- An open style: its name for comparison, and the whole text that names it. -/
structure Opened where
  name : String
  full : String
deriving Repr, DecidableEq

/-- The open styles after a closing tag, the last opened first. -/
def close (body : List Char) (position : Nat) (opened : List Opened) :
    Except Mistake (List Opened) :=
  let name := trim ((body.takeWhile (· ≠ '=')).drop 1)
  if name.isEmpty then
    match opened with
    | [] => .error (.nothingOpen position)
    | _ :: rest => .ok rest
  else
    let name := styleName name
    if opened.any (·.name = name) then .ok (opened.eraseP (·.name = name))
    else .error (.unmatched body position)

/-- The style that an opening tag opens. -/
def opening (body : List Char) : Opened :=
  let name := styleName (body.takeWhile (· ≠ '='))
  let parameters := body.dropWhile (· ≠ '=')
  ⟨name, if parameters.isEmpty then name else name ++ " " ++ String.ofList (parameters.drop 1)⟩

/-- The open styles after a tag. -/
def follow (body : List Char) (position : Nat) (opened : List Opened) :
    Except Mistake (List Opened) :=
  if body.head? = some '/' then close body position opened else .ok (opening body :: opened)

/-- A character with the styles that are open at it. -/
structure Glyph where
  char : Char
  opened : List Opened
deriving Repr, DecidableEq

/-- The characters that are shown. -/
def glyphsFrom (opened : List Opened) : List Saying → Except Mistake (List Glyph)
  | [] => .ok []
  | .shown text :: rest =>
    (glyphsFrom opened rest).map fun more => text.map (⟨·, opened⟩) ++ more
  | .tag body position :: rest =>
    match follow body position opened with
    | .error mistake => .error mistake
    | .ok opened => glyphsFrom opened rest

/-- The characters that marked-up text shows. -/
def glyphs (text : List Char) : Except Mistake (List Glyph) := glyphsFrom [] (sayings text)

end PackageGate.Markup
