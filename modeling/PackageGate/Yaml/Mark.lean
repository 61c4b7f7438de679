/-!
# Places in a document

A *cursor* is what is left of a document together with the place where that begins; a *mark*
remembers a place. Lines and columns count from zero. A line ends at a line feed, at a carriage
return that no line feed follows, and at the Unicode characters for a next line, a line separator
and a paragraph separator. A byte order mark takes no column.

Behind the end of the document every look-up gives the character NUL, which no document contains.
-/

namespace PackageGate.Yaml

/-- A place in a document. -/
structure Mark where
  index : Nat
  line : Nat
  column : Nat
deriving Repr, DecidableEq, Inhabited

/-- The rest of a document and the place where it begins. -/
structure Cursor where
  rest : List Char
  index : Nat
  line : Nat
  column : Nat
deriving Repr, Inhabited

/-- The character that stands for the end of the document. -/
def endOfText : Char := '\x00'

/-- The byte order mark. -/
def byteOrderMark : Char := '\ufeff'

/-- Whether a character ends a line. -/
def isBreak (c : Char) : Bool :=
  c = '\n' || c = '\r' || c = '\x85' || c = '\u2028' || c = '\u2029'

/-- Whether a character ends a line or the document. -/
def isBreakOrEnd (c : Char) : Bool := c = endOfText || isBreak c

/-- Whether a character is a space or ends a line or the document. -/
def isSpaceOrEnd (c : Char) : Bool := c = ' ' || isBreakOrEnd c

/-- Whether a character ends a word: a space, a tab, the end of a line or of the document. -/
def isGap (c : Char) : Bool := c = '\t' || isSpaceOrEnd c

namespace Cursor

/-- The beginning of a document. -/
def ofText (text : List Char) : Cursor := ⟨text, 0, 0, 0⟩

/-- The place of the cursor. -/
def mark (c : Cursor) : Mark := ⟨c.index, c.line, c.column⟩

/-- The next character. -/
def head (c : Cursor) : Char := c.rest.headD endOfText

/-- The character `n` places ahead. -/
def peek (c : Cursor) (n : Nat) : Char := (c.rest.drop n).headD endOfText

/-- Moves past one character. -/
def next (c : Cursor) : Cursor :=
  match c.rest with
  | [] => c
  | ch :: rest =>
    if isBreak ch && !(ch = '\r' && rest.head? = some '\n') then
      ⟨rest, c.index + 1, c.line + 1, 0⟩
    else ⟨rest, c.index + 1, c.line, if ch = byteOrderMark then c.column else c.column + 1⟩

/-- Moves past `n` characters. -/
def advance : Nat → Cursor → Cursor
  | 0, c => c
  | n + 1, c => advance n c.next

/-- The characters ahead that have a property. -/
def span (p : Char → Bool) (c : Cursor) : List Char := c.rest.takeWhile p

/-- Moves past all characters ahead that have a property. -/
def skip (p : Char → Bool) (c : Cursor) : Cursor := c.advance (c.span p).length

/-- Moves past spaces. -/
def skipSpaces (c : Cursor) : Cursor := c.skip (· = ' ')

/-- Moves past a comment, up to the end of its line. -/
def skipComment (c : Cursor) : Cursor :=
  if c.head = '#' then c.skip (!isBreakOrEnd ·) else c

/-- Moves past a line end and tells what it stands for: a line feed, or itself if it separates
lines or paragraphs in the sense of Unicode. -/
def lineBreak? (c : Cursor) : Option (Char × Cursor) :=
  let ch := c.head
  if ch = '\r' && c.peek 1 = '\n' then some ('\n', c.advance 2)
  else if ch = '\n' || ch = '\r' || ch = '\x85' then some ('\n', c.next)
  else if ch = '\u2028' || ch = '\u2029' then some (ch, c.next)
  else none

/-- Moves past a line end, if there is one. -/
def skipLineBreak (c : Cursor) : Cursor :=
  match c.lineBreak? with
  | some (_, c) => c
  | none => c

/-- Whether the three characters ahead are all `ch` and a gap follows. -/
def atTriple (ch : Char) (c : Cursor) : Bool :=
  c.head = ch && c.peek 1 = ch && c.peek 2 = ch && isGap (c.peek 3)

/-- Whether a document separator stands ahead. -/
def atSeparator (c : Cursor) : Bool := c.atTriple '-' || c.atTriple '.'

end Cursor

/-! ## Snippets -/

/-- The distance from a mark up to which its line is shown, on either side. -/
def snippetReach : Nat := 37

/-- The part of the line before a mark that is shown, given the text before the mark backwards. A
part that would be too long is cut and begins with dots. -/
def snippetHead (before : List Char) : List Char :=
  let line := before.takeWhile (!isBreakOrEnd ·)
  if snippetReach ≤ line.length then " ... ".toList ++ (line.take (snippetReach - 5)).reverse
  else line.reverse

/-- The part of the line behind a mark that is shown, cut in the same way. -/
def snippetTail (after : List Char) : List Char :=
  let line := after.takeWhile (!isBreakOrEnd ·)
  if snippetReach ≤ line.length then line.take (snippetReach - 5) ++ " ... ".toList else line

/-- How a mark is named in messages: line and column, and below them the line itself with a caret
under the place. -/
def Mark.describe (m : Mark) (text : List Char) : String :=
  let head := snippetHead (text.take m.index).reverse
  let tail := snippetTail (text.drop m.index)
  let indent := List.replicate 4 ' '
  let caret := List.replicate (4 + head.length) ' ' ++ ['^']
  s!"  in \"<unicode string>\", line {m.line + 1}, column {m.column + 1}:\n" ++
    String.ofList (indent ++ head ++ tail ++ '\n' :: caret)

end PackageGate.Yaml
