import PackageGate.Yaml.Error

/-!
# Plain scalars

A plain scalar has no quotes. It ends at a comment, at a colon that a gap follows, and inside flow
collections at their separators and brackets; it may go on over several lines that are indented
deeper than the collection around it. Line ends inside it are folded as in quoted scalars.
-/

namespace PackageGate.Yaml

/-- Whether a plain scalar ends before `c`, where `next` follows. -/
def endsPlain (inFlow : Bool) (c next : Char) : Bool :=
  isGap c
    || (c = ':' && (isGap next || (inFlow && ",[]\x7b\x7d".toList.contains next)))
    || (inFlow && ",?[]\x7b\x7d".toList.contains c)

/-- The characters ahead that belong to the plain scalar. -/
def plainRun (inFlow : Bool) : List Char → List Char
  | [] => []
  | c :: rest =>
    if endsPlain inFlow c (rest.headD endOfText) then [] else c :: plainRun inFlow rest

/-- The line ends and spaces ahead, behind a first line end. Nothing is given if a document
separator stands at the beginning of a line. -/
def plainBreaks : (fuel : Nat) → Cursor → Option (List Char) × Cursor
  | 0, c => (some [], c)
  | fuel + 1, c =>
    if c.head = ' ' then plainBreaks fuel c.next
    else match c.lineBreak? with
      | none => (some [], c)
      | some (ch, c) =>
        if c.atSeparator then (none, c)
        else
          let (more, c) := plainBreaks fuel c
          (more.map (ch :: ·), c)

/-- The blanks ahead of the next run of a plain scalar, folded, and whether they hold a line end.
Nothing is given where the scalar cannot go on. -/
def plainBlanks (fuel : Nat) (c : Cursor) : Option (List Char) × Bool × Cursor :=
  let blanks := c.span (· = ' ')
  let c := c.advance blanks.length
  match c.lineBreak? with
  | none => (if blanks.isEmpty then none else some blanks, false, c)
  | some (ch, c) =>
    if c.atSeparator then (none, true, c)
    else
      let (breaks, c) := plainBreaks fuel c
      let text := breaks.map fun breaks =>
        let first := if ch ≠ '\n' then [ch] else if breaks.isEmpty then [' '] else []
        first ++ breaks
      (text, true, c)

/-- What has been read of a plain scalar: the pieces of its text, the last of them first, the place
behind it, and whether the cursor stands at the beginning of a line. -/
structure PlainScan where
  pieces : List (List Char)
  stop : Mark
  atLineStart : Bool
  cursor : Cursor

/-- The runs of a plain scalar, the first of them behind the given blanks. Every run takes a
character, so the fuel for the runs also is enough for the blanks between them. -/
def plainRuns (inFlow : Bool) (indent : Int) :
    (fuel : Nat) → (blanks : List Char) → PlainScan → PlainScan
  | 0, _, s => s
  | fuel + 1, blanks, s =>
    let run := plainRun inFlow s.cursor.rest
    if s.cursor.head = '#' || run.isEmpty then s
    else
      let c := s.cursor.advance run.length
      let pieces := run :: blanks :: s.pieces
      match plainBlanks fuel c with
      | (none, broken, after) => ⟨pieces, c.mark, broken, after⟩
      | (some blanks, broken, after) =>
        let s := ⟨pieces, c.mark, broken, after⟩
        if after.head = '#' || (!inFlow && (after.column : Int) < indent) then s
        else plainRuns inFlow indent fuel blanks s

/-- A plain scalar inside a block collection at indentation `outer`. -/
def readPlain (inFlow : Bool) (outer : Int) (c : Cursor) : TokenKind × PlainScan :=
  let s := plainRuns inFlow (outer + 1) (c.rest.length + 1) [] ⟨[], c.mark, false, c⟩
  (.scalar (String.ofList s.pieces.reverse.flatten) true, s)

end PackageGate.Yaml
