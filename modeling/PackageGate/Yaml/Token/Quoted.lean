import PackageGate.Yaml.Error
import PackageGate.Text.Digit

/-!
# Quoted scalars

A scalar in single quotes holds every character as it is, and a quote written twice. In double
quotes a backslash begins an escape: a letter for a common character, the number of a character in
two, four or eight hexadecimal digits, or a line end that joins two lines without a blank.

In both, blanks around a line end are dropped. The first line end of a row becomes a blank if it
stands alone, and each further one a line feed.
-/

namespace PackageGate.Yaml

/-- What a letter stands for behind a backslash. -/
def escaped? (c : Char) : Option Char :=
  match c with
  | '0' => some '\x00'
  | 'a' => some '\x07'
  | 'b' => some '\x08'
  | 't' | '\t' => some '\t'
  | 'n' => some '\n'
  | 'v' => some '\x0b'
  | 'f' => some '\x0c'
  | 'r' => some '\r'
  | 'e' => some '\x1b'
  | ' ' => some ' '
  | '"' => some '"'
  | '\\' => some '\\'
  | '/' => some '/'
  | 'N' => some '\x85'
  | '_' => some '\xa0'
  | 'L' => some '\u2028'
  | 'P' => some '\u2029'
  | _ => none

/-- How many hexadecimal digits follow a letter behind a backslash. -/
def escapeWidth? (c : Char) : Option Nat :=
  match c with
  | 'x' => some 2
  | 'u' => some 4
  | 'U' => some 8
  | _ => none

/-- The number written by `count` hexadecimal digits ahead, or the first character that is
none. -/
def hexNumber (c : Cursor) : (count : Nat) → (value : Nat) → Except Char Nat
  | 0, value => .ok value
  | count + 1, value =>
    match Text.hexValue? c.head with
    | some d => hexNumber c.next count (16 * value + d)
    | none => .error c.head

/-- The character with a number. A surrogate is no character; in a text the replacement character
stands for it. What becomes of an entry that keeps it is a matter of surveys (`Outlook.survey`). -/
def characterOf (code : Nat) : Except Stop Char :=
  if 0x80000000 ≤ code then .error (.fault .beyondWord)
  else if 0x110000 ≤ code then .error (.fault .beyondUnicode)
  else if 0xD800 ≤ code ∧ code < 0xE000 then .ok '\ufffd'
  else .ok (Char.ofNat code)

/-- Whether a character is a space or a tab. -/
def isSpaceOrTab (c : Char) : Bool := c = ' ' || c = '\t'

/-- The line ends ahead, each followed by blanks, as the characters they stand for. A document
separator at the beginning of a line is a mistake here. -/
def quotedBreaks (since : Mark) : (fuel : Nat) → Cursor → Except Stop (List Char × Cursor)
  | 0, c => .ok ([], c)
  | fuel + 1, c =>
    if c.atSeparator then .error (problemIn .quotedScalar since .separatorInQuotes c.mark)
    else
      let c := c.skip isSpaceOrTab
      match c.lineBreak? with
      | none => .ok ([], c)
      | some (ch, c) => do
        let (more, c) ← quotedBreaks since fuel c
        .ok (ch :: more, c)

/-- The blanks ahead inside a quoted scalar, folded if they hold a line end. -/
def quotedBlanks (since : Mark) (c : Cursor) : Except Stop (List Char × Cursor) := do
  let blanks := c.span isSpaceOrTab
  let c := c.advance blanks.length
  if c.head = endOfText then .error (problemIn .quotedScalar since .endInQuotes c.mark)
  else match c.lineBreak? with
    | none => .ok (blanks, c)
    | some (ch, c) =>
      let (breaks, c) ← quotedBreaks since (c.rest.length + 1) c
      let first := if ch ≠ '\n' then [ch] else if breaks.isEmpty then [' '] else []
      .ok (first ++ breaks, c)

/-- What the escape ahead stands for, behind its backslash. -/
def readEscape (since : Mark) (c : Cursor) : Except Stop (List Char × Cursor) :=
  match escaped? c.head with
  | some ch => .ok ([ch], c.next)
  | none =>
    match escapeWidth? c.head with
    | some count =>
      match hexNumber c.next count 0 with
      | .error found => .error (problemIn .doubleQuoted since (.notHex count found) c.next.mark)
      | .ok code => do
        let ch ← characterOf code
        .ok ([ch], c.next.advance count)
    | none =>
      match c.lineBreak? with
      | some (_, after) => quotedBreaks since (after.rest.length + 1) after
      | none => .error (problemIn .doubleQuoted since (.unknownEscape c.head) c.mark)

/-- Whether a character ends a run of plain characters inside quotes. -/
def endsQuotedRun (c : Char) : Bool := isGap c || c = '\'' || c = '"' || c = '\\'

/-- What stands behind a run: its text, the cursor behind it, and whether it is the closing
quote. -/
def quotedPiece (quote : Char) (since : Mark) (c : Cursor) :
    Except Stop (List Char × Cursor × Bool) :=
  if quote = '\'' && c.head = '\'' && c.peek 1 = '\'' then .ok (['\''], c.advance 2, false)
  else if c.head = quote then .ok ([], c.next, true)
  else if c.head = '\'' || c.head = '"' then .ok ([c.head], c.next, false)
  else if c.head = '\\' then
    if quote = '"' then do
      let (text, c) ← readEscape since c.next
      .ok (text, c, false)
    else .ok (['\\'], c.next, false)
  else do
    let (text, c) ← quotedBlanks since c
    .ok (text, c, false)

/-- The text up to the closing quote. -/
def quotedText (quote : Char) (since : Mark) :
    (fuel : Nat) → Cursor → Except Stop (List Char × Cursor)
  | 0, c => .error (problemIn .quotedScalar since .endInQuotes c.mark)
  | fuel + 1, c => do
    let run := c.span (!endsQuotedRun ·)
    let (here, c, isClosed) ← quotedPiece quote since (c.advance run.length)
    if isClosed then .ok (run, c)
    else
      let (more, c) ← quotedText quote since fuel c
      .ok (run ++ here ++ more, c)

/-- A quoted scalar. -/
def readQuoted (c : Cursor) : Except Stop (TokenKind × Cursor) := do
  let (text, after) ← quotedText c.head c.mark (c.rest.length + 1) c.next
  .ok (.scalar (String.ofList text) false, after)

end PackageGate.Yaml
