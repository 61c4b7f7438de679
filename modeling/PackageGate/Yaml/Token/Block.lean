import PackageGate.Yaml.Error
import PackageGate.Text.Digit

/-!
# Block scalars

A literal or folded scalar takes the lines below its header that are indented deep enough. The
header may say how deep that is, relative to the surrounding collection, and what becomes of the
line ends behind the last line: one is kept unless the header says none or all. Without such a
number the first line that is not blank sets the indentation.

Folding turns a line end between two lines into a blank, unless one of them begins with a blank or
an empty line stands between them.
-/

namespace PackageGate.Yaml

/-- What becomes of the line ends behind the last line of a block scalar. -/
inductive Chomping where
  | strip
  | clip
  | keep
deriving Repr, DecidableEq

/-- The header of a block scalar. -/
structure BlockHeader where
  chomping : Chomping
  increment : Option Nat
deriving Repr, DecidableEq

/-- The chomping indicator ahead. -/
def chompingSign? (c : Char) : Option Chomping :=
  if c = '+' then some .keep else if c = '-' then some .strip else none

/-- The indentation indicator ahead, which is not zero. -/
def indentDigit (since : Mark) (c : Cursor) : Except Stop (Option Nat × Cursor) :=
  if Text.isAsciiDigit c.head then
    if c.head = '0' then .error (problemIn .blockScalar since .zeroIndent c.mark)
    else .ok (some (c.head.toNat - '0'.toNat), c.next)
  else .ok (none, c)

/-- The header behind the sign of a block scalar: the two indicators in any order. -/
def blockHeader (since : Mark) (c : Cursor) : Except Stop (BlockHeader × Cursor) := do
  let (header, c) ←
    match chompingSign? c.head with
    | some chomping => do
      let (increment, c) ← indentDigit since c.next
      .ok (BlockHeader.mk chomping increment, c)
    | none => do
      let (increment, c) ← indentDigit since c
      match increment, chompingSign? c.head with
      | some n, some chomping => .ok (BlockHeader.mk chomping (some n), c.next)
      | _, _ => .ok (BlockHeader.mk .clip increment, c)
  if isSpaceOrEnd c.head then .ok (header, c)
  else .error (problemIn .blockScalar since (.notBlockHeader c.head) c.mark)

/-- The blank lines ahead, as the characters their line ends stand for, with the deepest column
reached in them and the place behind the last of them. -/
def leadingBlankLines :
    (fuel deepest : Nat) → (stop : Mark) → Cursor → List Char × Nat × Mark × Cursor
  | 0, deepest, stop, c => ([], deepest, stop, c)
  | fuel + 1, deepest, stop, c =>
    let c := c.skipSpaces
    let deepest := max deepest c.column
    match c.lineBreak? with
    | none => ([], deepest, stop, c)
    | some (ch, c) =>
      let (more, deepest, stop, c) := leadingBlankLines fuel deepest c.mark c
      (ch :: more, deepest, stop, c)

/-- Moves past spaces, but not past a column. -/
def indentTo (column : Nat) (c : Cursor) : Cursor :=
  c.advance (min (c.span (· = ' ')).length (column - c.column))

/-- The blank lines ahead of a line at a known indentation. -/
def blankLines (indent : Nat) : (fuel : Nat) → (stop : Mark) → Cursor → List Char × Mark × Cursor
  | 0, stop, c => ([], stop, c)
  | fuel + 1, stop, c =>
    let c := indentTo indent c
    match c.lineBreak? with
    | none => ([], stop, c)
    | some (ch, c) =>
      let (more, stop, c) := blankLines indent fuel c.mark c
      (ch :: more, stop, c)

/-- The line end of the last line of a block scalar, if any, and those behind it. -/
structure BlockTail where
  lineEnd : List Char
  breaks : List Char

/-- The lines of a block scalar, from a line at its indentation on. The line ends in front of that
line are given. Every line takes a character, so the fuel for the lines also is enough for the
blanks between them. -/
def blockLines (folded : Bool) (indent : Nat) :
    (fuel : Nat) → (before : List Char) → (stop : Mark) → Cursor →
      List Char × BlockTail × Mark × Cursor
  | 0, before, stop, c => ([], ⟨[], before⟩, stop, c)
  | fuel + 1, before, _, c =>
    let startsBlank := c.head = ' ' || c.head = '\t'
    let line := c.span (!isBreakOrEnd ·)
    let c := c.advance line.length
    let (lineEnd, c) := match c.lineBreak? with
      | some (ch, after) => ([ch], after)
      | none => ([], c)
    let (breaks, stop, c) := blankLines indent fuel c.mark c
    if c.column = indent && c.head ≠ endOfText then
      let joint :=
        if folded && lineEnd = ['\n'] && !startsBlank && c.head ≠ ' ' && c.head ≠ '\t' then
          if breaks.isEmpty then [' '] else []
        else lineEnd
      let (more, last, stop, c) := blockLines folded indent fuel breaks stop c
      (before ++ line ++ joint ++ more, last, stop, c)
    else (before ++ line, ⟨lineEnd, breaks⟩, stop, c)

/-- A block scalar inside a collection at the given indentation, with the place where it ends. -/
def readBlock (outer : Int) (folded : Bool) (c : Cursor) :
    Except Stop (TokenKind × Mark × Cursor) := do
  let since := c.mark
  let (header, c) ← blockHeader since c.next
  let c := c.skipSpaces.skipComment
  if !isBreakOrEnd c.head then
    .error (problemIn .blockScalar since (.notCommentOrBreak c.head) c.mark)
  else
    let c := c.skipLineBreak
    let least := (max (outer + 1) 1).toNat
    let fuel := c.rest.length + 1
    let (breaks, indent, stop, c) :=
      match header.increment with
      | none =>
        let (breaks, deepest, stop, c) := leadingBlankLines fuel 0 c.mark c
        (breaks, max least deepest, stop, c)
      | some n =>
        let indent := least + n - 1
        let (breaks, stop, c) := blankLines indent fuel c.mark c
        (breaks, indent, stop, c)
    let (text, last, stop, c) :=
      if c.column = indent && c.head ≠ endOfText then
        blockLines folded indent fuel breaks stop c
      else ([], ⟨[], breaks⟩, stop, c)
    let chomped := match header.chomping with
      | .strip => []
      | .clip => last.lineEnd
      | .keep => last.lineEnd ++ last.breaks
    .ok (.scalar (String.ofList (text ++ chomped)) false, stop, c)

end PackageGate.Yaml
