import PackageGate.Yaml.Token.Names
import PackageGate.Yaml.Token.Quoted
import PackageGate.Yaml.Token.Block
import PackageGate.Yaml.Token.Plain

/-!
# The tokens of a document

Most tokens are known when they are met. A key without a question mark is not: whether a scalar, an
alias or a flow collection is one is told by the colon behind it, on the same line and at most 1024
characters further on. Such a *candidate* is remembered, one for each depth of flow collections,
and the tokens from the candidate on are held back until it is settled. When its colon is met, the
key token, and in a block also the token that opens the mapping, are put in front of the candidate.

The result is the list of all tokens up to the first mistake, together with that mistake. A token
that is still held back when a mistake is met is not in the list: whoever reads the tokens in order
meets the mistake in its place.
-/

namespace PackageGate.Yaml

/-- The greatest distance of a key's colon from the beginning of the key. -/
def keyReach : Nat := 1024

/-- A token that may turn out to be a key: its number in the stream and its place. A required one
stands where only a key can stand. -/
structure Candidate where
  number : Nat
  required : Bool
  place : Mark
deriving Repr

/-- The state of tokenizing: the cursor, the nesting of flow collections, the indentations of the
open block collections, whether a key may start here, the candidates by depth, and the tokens that
are held back, with the number of those handed out before. -/
structure Scanner where
  cursor : Cursor
  depth : Int
  indent : Int
  indents : List Int
  keyAllowed : Bool
  candidates : List (Int × Candidate)
  handedOut : Nat
  held : List Token
  done : Bool

namespace Scanner

/-- The state at the beginning of a document. -/
def start (text : List Char) : Scanner where
  cursor := .ofText text
  depth := 0
  indent := -1
  indents := []
  keyAllowed := true
  candidates := []
  handedOut := 0
  held := [⟨.streamStart, ⟨0, 0, 0⟩, ⟨0, 0, 0⟩⟩]
  done := false

/-- Whether the cursor is inside a flow collection. -/
def inFlow (s : Scanner) : Bool := s.depth ≠ 0

/-- The place of the cursor. -/
def mark (s : Scanner) : Mark := s.cursor.mark

/-- Holds back one more token. -/
def push (s : Scanner) (kind : TokenKind) (start stop : Mark) : Scanner :=
  { s with held := s.held ++ [⟨kind, start, stop⟩] }

/-- Holds back a token that covers the next `n` characters, and moves past them. -/
def take (s : Scanner) (kind : TokenKind) (n : Nat) : Scanner :=
  let after := s.cursor.advance n
  { s.push kind s.mark after.mark with cursor := after }

/-- Puts a token in front of the one with the given number. -/
def insertAt (s : Scanner) (number : Nat) (kind : TokenKind) (place : Mark) : Scanner :=
  let n := number - s.handedOut
  { s with held := s.held.take n ++ ⟨kind, place, place⟩ :: s.held.drop n }

/-! ## Candidates for keys -/

/-- Whether the colon of a candidate can no longer come. -/
def isStale (c : Cursor) (k : Candidate) : Bool :=
  k.place.line ≠ c.line || keyReach < c.index - k.place.index

/-- The mistake of a place where only a key can stand, but no colon comes. -/
def missingColon (s : Scanner) (k : Candidate) : Stop :=
  problemIn .simpleKey k.place .missingColon s.mark

/-- Forgets the candidates whose colon can no longer come. -/
def dropStale (s : Scanner) : Except Stop Scanner :=
  match s.candidates.find? fun k => isStale s.cursor k.2 && k.2.required with
  | some k => .error (s.missingColon k.2)
  | none => .ok { s with candidates := s.candidates.filter fun k => !isStale s.cursor k.2 }

/-- The candidate of the present depth. -/
def candidate? (s : Scanner) : Option Candidate :=
  (s.candidates.find? (·.1 = s.depth)).map (·.2)

/-- Forgets the candidate of the present depth without any check. -/
def forget (s : Scanner) : Scanner :=
  { s with candidates := s.candidates.filter (·.1 ≠ s.depth) }

/-- Gives the candidate of the present depth up. -/
def giveUp (s : Scanner) : Except Stop Scanner :=
  match s.candidate? with
  | some k => if k.required then .error (s.missingColon k) else .ok s.forget
  | none => .ok s

/-- Remembers that the next token may be a key. -/
def remember (s : Scanner) : Except Stop Scanner :=
  if !s.keyAllowed then .ok s
  else do
    let s ← s.giveUp
    let k : Candidate :=
      ⟨s.handedOut + s.held.length, !s.inFlow && s.indent = s.cursor.column, s.mark⟩
    .ok { s with candidates := s.candidates ++ [(s.depth, k)] }

/-! ## Indentation -/

/-- Closes the block collections that are indented deeper than a column. -/
def closeBlocks (column : Int) : (indents : List Int) → Scanner → Scanner
  | [], s => s
  | outer :: rest, s =>
    if column < s.indent then
      closeBlocks column rest
        { s.push .blockEnd s.mark s.mark with indent := outer, indents := rest }
    else s

/-- Closes the block collections that end in front of a column; flow collections pay no attention
to indentation. -/
def unwind (column : Int) (s : Scanner) : Scanner :=
  if s.inFlow then s else closeBlocks column s.indents s

/-- Opens a block collection at a column, unless one is open there or deeper. -/
def indentAt? (s : Scanner) (column : Nat) : Option Scanner :=
  if s.indent < column then
    some { s with indents := s.indent :: s.indents, indent := column }
  else none

/-- Opens a block collection at the cursor if need be, with a token in front. -/
def openBlock (s : Scanner) (kind : TokenKind) : Scanner :=
  match s.indentAt? s.cursor.column with
  | some s => s.push kind s.mark s.mark
  | none => s

/-! ## Tokens -/

/-- The end of the document. -/
def takeEnd (s : Scanner) : Except Stop Scanner := do
  let s ← (s.unwind (-1)).giveUp
  .ok { s.push .streamEnd s.mark s.mark with keyAllowed := false, candidates := [], done := true }

/-- A directive. -/
def takeDirective (s : Scanner) : Except Stop Scanner := do
  let s ← (s.unwind (-1)).giveUp
  let (kind, stop, after) ← readDirective s.cursor
  .ok { s.push kind s.mark stop with cursor := after, keyAllowed := false }

/-- A separator of documents. -/
def takeSeparator (s : Scanner) (kind : TokenKind) : Except Stop Scanner := do
  let s ← (s.unwind (-1)).giveUp
  .ok ({ s with keyAllowed := false }.take kind 3)

/-- An opening bracket, which may begin a key. -/
def takeOpening (s : Scanner) (kind : TokenKind) : Except Stop Scanner := do
  let s ← s.remember
  .ok ({ s with depth := s.depth + 1, keyAllowed := true }.take kind 1)

/-- A closing bracket. -/
def takeClosing (s : Scanner) (kind : TokenKind) : Except Stop Scanner := do
  let s ← s.giveUp
  .ok ({ s with depth := s.depth - 1, keyAllowed := false }.take kind 1)

/-- A comma between the entries of a flow collection. -/
def takeFlowEntry (s : Scanner) : Except Stop Scanner := do
  let s ← s.giveUp
  .ok ({ s with keyAllowed := true }.take .flowEntry 1)

/-- The hyphen of an entry in a block sequence. -/
def takeBlockEntry (s : Scanner) : Except Stop Scanner := do
  if !s.inFlow && !s.keyAllowed then .error (problemAt .entryNotAllowed s.mark)
  else
    let s := if s.inFlow then s else s.openBlock .blockSequenceStart
    let s ← { s with keyAllowed := true }.giveUp
    .ok (s.take .blockEntry 1)

/-- The question mark of a key. -/
def takeKey (s : Scanner) : Except Stop Scanner := do
  if !s.inFlow && !s.keyAllowed then .error (problemAt .keyNotAllowed s.mark)
  else
    let s := if s.inFlow then s else s.openBlock .blockMappingStart
    let s ← { s with keyAllowed := !s.inFlow }.giveUp
    .ok (s.take .key 1)

/-- The colon between key and value. It settles the candidate of the present depth. -/
def takeValue (s : Scanner) : Except Stop Scanner :=
  match s.candidate? with
  | some k =>
    let s := s.forget.insertAt k.number .key k.place
    let s := if s.inFlow then s else
      match s.indentAt? k.place.column with
      | some s => s.insertAt k.number .blockMappingStart k.place
      | none => s
    .ok ({ s with keyAllowed := false }.take .value 1)
  | none =>
    if !s.inFlow && !s.keyAllowed then .error (problemAt .valueNotAllowed s.mark)
    else
      let s := if s.inFlow then s else s.openBlock .blockMappingStart
      .ok ({ s with keyAllowed := !s.inFlow }.take .value 1)

/-- A token that may be a key and is read as a whole. -/
def takeWhole (s : Scanner) (read : Cursor → Except Stop (TokenKind × Cursor)) :
    Except Stop Scanner := do
  let s ← s.remember
  let (kind, after) ← read s.cursor
  .ok { s.push kind s.mark after.mark with cursor := after, keyAllowed := false }

/-- A block scalar. -/
def takeBlock (s : Scanner) (folded : Bool) : Except Stop Scanner := do
  let s ← { s with keyAllowed := true }.giveUp
  let (kind, stop, after) ← readBlock s.indent folded s.cursor
  .ok { s.push kind s.mark stop with cursor := after }

/-- A plain scalar. Behind its last line a key may start. -/
def takePlain (s : Scanner) : Except Stop Scanner := do
  let s ← s.remember
  let (kind, scan) := readPlain s.inFlow s.indent s.cursor
  .ok { s.push kind s.mark scan.stop with cursor := scan.cursor, keyAllowed := scan.atLineStart }

/-- Whether a plain scalar can start at the cursor. -/
def startsPlain (s : Scanner) : Bool :=
  let c := s.cursor.head
  let next := s.cursor.peek 1
  (!isGap c && !"-?:,[]\x7b\x7d#&*!|>'\"%@`".toList.contains c)
    || (!isGap next && (c = '-' || (!s.inFlow && (c = '?' || c = ':'))))

/-- Moves past blanks, comments and line ends. In a block a key may start on a new line. -/
def skipToToken : (fuel : Nat) → Scanner → Scanner
  | 0, s => s
  | fuel + 1, s =>
    let c := s.cursor.skipSpaces.skipComment
    match c.lineBreak? with
    | none => { s with cursor := c }
    | some (_, c) =>
      skipToToken fuel { s with cursor := c, keyAllowed := s.keyAllowed || !s.inFlow }

/-- Moves past a byte order mark at the beginning of the document. -/
def skipOrderMark (s : Scanner) : Scanner :=
  if s.cursor.index = 0 && s.cursor.head = byteOrderMark then { s with cursor := s.cursor.next }
  else s

/-- Reads the next token at the cursor. -/
def takeToken (s : Scanner) : Except Stop Scanner :=
  let c := s.cursor
  let ch := c.head
  let gapFollows := isGap (c.peek 1)
  if ch = endOfText then s.takeEnd
  else if ch = '%' && c.column = 0 then s.takeDirective
  else if c.column = 0 && c.atTriple '-' then s.takeSeparator .documentStart
  else if c.column = 0 && c.atTriple '.' then s.takeSeparator .documentEnd
  else if ch = '[' then s.takeOpening .flowSequenceStart
  else if ch = '\x7b' then s.takeOpening .flowMappingStart
  else if ch = ']' then s.takeClosing .flowSequenceEnd
  else if ch = '\x7d' then s.takeClosing .flowMappingEnd
  else if ch = ',' then s.takeFlowEntry
  else if ch = '-' && gapFollows then s.takeBlockEntry
  else if ch = '?' && (s.inFlow || gapFollows) then s.takeKey
  else if ch = ':' && (s.inFlow || gapFollows) then s.takeValue
  else if ch = '*' then s.takeWhole readAlias
  else if ch = '&' then s.takeWhole readAnchor
  else if ch = '!' then s.takeWhole readTag
  else if ch = '|' && !s.inFlow then s.takeBlock false
  else if ch = '>' && !s.inFlow then s.takeBlock true
  else if ch = '\'' || ch = '"' then s.takeWhole readQuoted
  else if s.startsPlain then s.takePlain
  else .error (.malformed ⟨some (.nextToken, none), .noTokenStart ch, s.mark⟩)

/-- Moves on by one token of the document. -/
def advance (s : Scanner) : Except Stop Scanner := do
  let s := s.skipOrderMark
  let s ← (s.skipToToken (s.cursor.rest.length + 1)).dropStale
  (s.unwind s.cursor.column).takeToken

/-- Whether the first token that is held back cannot be handed out yet. -/
def isHeldBack (s : Scanner) : Bool :=
  s.held.isEmpty || s.candidates.any (·.2.number = s.handedOut)

/-- What a state comes to in one step: it hands out a token, it moves on by one, or it is over, with
the last tokens and perhaps a mistake. -/
inductive Turn where
  | over (last : List Token) (mistake : Option Stop)
  | handOut (t : Token) (s : Scanner)
  | move (s : Scanner)

/-- One step of a state whose stale candidates are forgotten. -/
def freshTurn (s : Scanner) : Turn :=
  if s.isHeldBack then
    match s.advance with
    | .error e => .over [] (some e)
    | .ok s => .move s
  else
    match s.held with
    | [] => .over [] none
    | t :: held => .handOut t { s with held := held, handedOut := s.handedOut + 1 }

/-- One step. While tokens are held back, stale candidates are forgotten first. -/
def turn (s : Scanner) : Turn :=
  if s.done then .over s.held none
  else
    match if s.held.isEmpty then .ok s else s.dropStale with
    | .error e => .over [] (some e)
    | .ok s => s.freshTurn

/-- The tokens that can be handed out from a state on, and the mistake that ends them, if any. -/
def run : (fuel : Nat) → Scanner → List Token × Option Stop
  | 0, _ => ([], none)
  | fuel + 1, s =>
    match s.turn with
    | .over last mistake => (last, mistake)
    | .handOut t s =>
      let (tokens, mistake) := run fuel s
      (t :: tokens, mistake)
    | .move s => run fuel s

end Scanner

/-- The tokens of a document up to the first mistake, and the mistake. -/
def tokens (text : List Char) : List Token × Option Stop :=
  Scanner.run (8 * text.length + 16) (.start text)

end PackageGate.Yaml
