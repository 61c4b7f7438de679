import PackageGate.Yaml.Error
import PackageGate.Text.Digit

/-!
# Directives, anchors, aliases and tags

The tokens that are made of names. A name consists of ASCII letters, digits, hyphens and
underscores. Tags and the right-hand sides of tag directives are made of the characters of a URI,
where any character can be written as the percent escapes of its bytes.

Each reader takes the cursor at which the token starts, and gives the token's content with the
cursor behind it.
-/

namespace PackageGate.Yaml

/-- Whether a character can be part of a name. -/
def isNameChar (c : Char) : Bool := c.isAlphanum || c = '-' || c = '_'

/-- Whether a character can be part of a URI. -/
def isUriChar (c : Char) : Bool := c.isAlphanum || "-;/?:@&=+$,_.!~*'()[]%".toList.contains c

/-- Whether a character may follow the name of an anchor or alias. -/
def endsAnchor (c : Char) : Bool := isGap c || "?:,]\x7d%@`".toList.contains c

/-! ## Tags -/

/-- The bytes of the percent escapes ahead. -/
def uriBytes (activity : Activity) (since : Mark) :
    (fuel : Nat) → Cursor → Except Stop (List UInt8 × Cursor)
  | 0, c => .ok ([], c)
  | fuel + 1, c =>
    if c.head = '%' then do
      let c := c.next
      match Text.hexValue? (c.peek 0), Text.hexValue? (c.peek 1) with
      | some high, some low =>
        let (bytes, c) ← uriBytes activity since fuel (c.advance 2)
        .ok ((high * 16 + low).toUInt8 :: bytes, c)
      | none, _ => .error (problemIn activity since (.notUriEscape (c.peek 0)) c.mark)
      | some _, none => .error (problemIn activity since (.notUriEscape (c.peek 1)) c.mark)
    else .ok ([], c)

/-- The text of the percent escapes ahead. -/
def uriEscapes (activity : Activity) (since : Mark) (c : Cursor) :
    Except Stop (List Char × Cursor) := do
  let (bytes, after) ← uriBytes activity since c.rest.length c
  match Text.Utf8.decode bytes with
  | .ok text => .ok (text, after)
  | .error flaw => .error (problemIn activity since (.badUriBytes bytes flaw) c.mark)

/-- The pieces of a URI ahead: runs of plain characters and runs of escapes. -/
def uriPieces (activity : Activity) (since : Mark) :
    (fuel : Nat) → Cursor → Except Stop (List (List Char) × Cursor)
  | 0, c => .ok ([], c)
  | fuel + 1, c =>
    let run := c.span fun ch => isUriChar ch && ch ≠ '%'
    let c := c.advance run.length
    if c.head = '%' then do
      let (text, c) ← uriEscapes activity since c
      let (more, c) ← uriPieces activity since fuel c
      .ok (run :: text :: more, c)
    else .ok (if run.isEmpty then [] else [run], c)

/-- A URI. Where a directive is read, `activity` is that of directives. -/
def uri (activity missing : Activity) (since : Mark) (c : Cursor) :
    Except Stop (String × Cursor) := do
  let (pieces, after) ← uriPieces activity since c.rest.length c
  if pieces.isEmpty then .error (problemIn missing since (.notUri after.head) after.mark)
  else .ok (String.ofList pieces.flatten, after)

/-- The handle of a tag: one exclamation mark, or a name between two. -/
def tagHandle (activity : Activity) (since : Mark) (c : Cursor) :
    Except Stop (String × Cursor) :=
  if c.head ≠ '!' then .error (problemIn activity since (.notBang c.head) c.mark)
  else if c.peek 1 = ' ' then .ok ("!", c.next)
  else
    let name := c.next.span isNameChar
    let after := c.advance (name.length + 1)
    if after.head ≠ '!' then .error (problemIn activity since (.notBang after.head) after.mark)
    else .ok (String.ofList ('!' :: name ++ ['!']), after.next)

/-- A tag: a whole name in angle brackets, a lone exclamation mark, or a handle and a suffix. -/
def readTag (c : Cursor) : Except Stop (TokenKind × Cursor) := do
  let since := c.mark
  let (kind, after) ←
    if c.peek 1 = '<' then do
      let (name, after) ← uri .tag .tagText since (c.advance 2)
      if after.head ≠ '>' then
        .error (problemIn .tagText since (.notAngle after.head) after.mark)
      else .ok (TokenKind.tag none name, after.next)
    else if isGap (c.peek 1) then .ok (TokenKind.tag none "!", c.next)
    else do
      let named := (c.next.span (!isSpaceOrEnd ·)).contains '!'
      let (handle, after) ← if named then tagHandle .tag since c else .ok ("!", c.next)
      let (suffix, after) ← uri .tag .tagText since after
      .ok (TokenKind.tag (some handle) suffix, after)
  if isSpaceOrEnd after.head then .ok (kind, after)
  else .error (problemIn .tag since (.notSpace after.head) after.mark)

/-! ## Anchors and aliases -/

/-- The name of an anchor or alias, behind its sign. -/
def readAnchorName (activity : Activity) (c : Cursor) : Except Stop (String × Cursor) :=
  let name := c.next.span isNameChar
  let after := c.next.advance name.length
  if name.isEmpty || !endsAnchor after.head then
    .error (problemIn activity c.mark (.notAlphanumeric after.head) after.mark)
  else .ok (String.ofList name, after)

/-- An anchor. -/
def readAnchor (c : Cursor) : Except Stop (TokenKind × Cursor) := do
  let (name, after) ← readAnchorName .anchor c
  .ok (.anchor name, after)

/-- An alias. -/
def readAlias (c : Cursor) : Except Stop (TokenKind × Cursor) := do
  let (name, after) ← readAnchorName .alias c
  .ok (.alias name, after)

/-! ## Directives -/

/-- A number of a version. -/
def versionNumber (since : Mark) (c : Cursor) : Except Stop (Nat × Cursor) :=
  let digits := c.span Text.isAsciiDigit
  if digits.isEmpty then .error (problemIn .directive since (.notDigit c.head) c.mark)
  else if Number.digitLimit < digits.length then
    .error (.fault (.notWhole (.tooManyDigits digits.length)))
  else .ok (Text.decimalValue digits, c.advance digits.length)

/-- The version that a directive declares. -/
def readVersion (since : Mark) (c : Cursor) : Except Stop (Directive × Cursor) := do
  let (major, c) ← versionNumber since c.skipSpaces
  if c.head ≠ '.' then .error (problemIn .directive since (.notDigitOrPoint c.head) c.mark)
  else
    let (minor, c) ← versionNumber since c.next
    if isSpaceOrEnd c.head then .ok (.version major minor, c)
    else .error (problemIn .directive since (.notDigitOrSpace c.head) c.mark)

/-- The handle that a directive declares, and what it stands for. -/
def readHandle (since : Mark) (c : Cursor) : Except Stop (Directive × Cursor) := do
  let (handle, c) ← tagHandle .directive since c.skipSpaces
  if c.head ≠ ' ' then .error (problemIn .directive since (.notSpace c.head) c.mark)
  else
    let (replacement, c) ← uri .directive .directiveTagText since c.skipSpaces
    if isSpaceOrEnd c.head then .ok (.tag handle replacement, c)
    else .error (problemIn .directive since (.notSpace c.head) c.mark)

/-- A directive line, with the mark at which the directive itself ends. -/
def readDirective (c : Cursor) : Except Stop (TokenKind × Mark × Cursor) := do
  let since := c.mark
  let name := c.next.span isNameChar
  let after := c.next.advance name.length
  if name.isEmpty || !isSpaceOrEnd after.head then
    .error (problemIn .directive since (.notAlphanumeric after.head) after.mark)
  else
    let (directive, after, stop) ←
      if String.ofList name = "YAML" then do
        let (d, after) ← readVersion since after
        .ok (d, after, after.mark)
      else if String.ofList name = "TAG" then do
        let (d, after) ← readHandle since after
        .ok (d, after, after.mark)
      else .ok (Directive.other (String.ofList name), after.skip (!isBreakOrEnd ·), after.mark)
    let after := after.skipSpaces.skipComment
    if isBreakOrEnd after.head then .ok (.directive directive, stop, after.skipLineBreak)
    else .error (problemIn .directive since (.notCommentOrBreak after.head) after.mark)

end PackageGate.Yaml
