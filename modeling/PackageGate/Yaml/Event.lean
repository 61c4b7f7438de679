import PackageGate.Yaml.Error

/-!
# The structure of a document

The tokens of a document are bracketed by the grammar: an event opens or closes a collection or a
document, or is a scalar or an alias. The grammar is followed with a stack of *expectations*. Each
step looks at the tokens ahead, yields one event, and replaces the topmost expectation by what is
expected from then on.

What the grammar leaves out is filled in: a missing key or value is an empty plain scalar, and a
pair inside a flow sequence is a mapping with one entry.
-/

namespace PackageGate.Yaml

/-- The anchor and the tag of a node, and the place where the node begins. -/
structure NodeHead where
  anchor : Option String
  tag : Option String
  start : Mark
deriving Repr

/-- One piece of a document's structure. A scalar is *open* if its tag follows from its text. -/
inductive Event where
  | documentStart (start : Mark)
  | documentEnd
  | streamEnd
  | alias (name : String) (start : Mark)
  | scalar (head : NodeHead) (text : String) (isOpen : Bool)
  | sequenceStart (head : NodeHead)
  | sequenceEnd
  | mappingStart (head : NodeHead)
  | mappingEnd
deriving Repr

/-- What the grammar expects next. A collection remembers where it began. -/
inductive Expectation where
  | firstDocument
  | document
  | documentContent
  | documentEnd
  | blockNode
  | blockSequence (since : Mark)
  | indentlessSequence
  | blockKey (since : Mark)
  | blockValue (since : Mark)
  | flowSequence (since : Mark) (first : Bool)
  | pairKey (since : Mark)
  | pairValue (since : Mark)
  | pairEnd (since : Mark)
  | flowKey (since : Mark) (first : Bool)
  | flowValue (since : Mark)
  | flowEmptyValue (since : Mark)
deriving Repr

/-- Where a node stands: it may be a block collection only in a block, and a sequence without
indentation only below a key or value. -/
inductive Position where
  | block
  | underKey
  | flow
deriving Repr, DecidableEq

/-- The handles of tags that need no declaration. -/
def commonHandles : List (String × String) := [("!", "!"), ("!!", "tag:yaml.org,2002:")]

/-- The state of following the grammar: what is expected, innermost first, the tokens ahead with
the mistake behind them, and the declared handles of tags. -/
structure Outline where
  expected : List Expectation
  ahead : List Token
  mistake : Stop
  handles : List (String × String)

namespace Outline

/-- The next token. -/
def peek (o : Outline) : Except Stop Token :=
  match o.ahead with
  | t :: _ => .ok t
  | [] => .error o.mistake

/-- Leaves the next token behind. -/
def drop (o : Outline) : Outline := { o with ahead := o.ahead.tail }

/-- Expects something next. -/
def expect (o : Outline) (e : Expectation) : Outline := { o with expected := e :: o.expected }

/-- An empty plain scalar. -/
def emptyScalar (place : Mark) : Event := .scalar ⟨none, none, place⟩ "" true

/-- The anchor and the tag ahead, in any order. The place of the first of them and of the tag are
given too. -/
def nodeMarks (o : Outline) :
    Except Stop (Option String × Option (Option String × String × Mark) × Option Mark × Outline) :=
  do
    let t ← o.peek
    match t.kind with
    | .anchor name =>
      let o := o.drop
      let u ← o.peek
      match u.kind with
      | .tag handle suffix => .ok (some name, some (handle, suffix, u.start), some t.start, o.drop)
      | _ => .ok (some name, none, some t.start, o)
    | .tag handle suffix =>
      let o := o.drop
      let u ← o.peek
      match u.kind with
      | .anchor name => .ok (some name, some (handle, suffix, t.start), some t.start, o.drop)
      | _ => .ok (none, some (handle, suffix, t.start), some t.start, o)
    | _ => .ok (none, none, none, o)

/-- The full name of a tag. -/
def tagName (o : Outline) (since : Option Mark) :
    Option (Option String × String × Mark) → Except Stop (Option String)
  | none => .ok none
  | some (none, suffix, _) => .ok (some suffix)
  | some (some handle, suffix, place) =>
    match o.handles.lookup handle with
    | some start => .ok (some (start ++ suffix))
    | none => .error (problemIn .node (since.getD place) (.unknownHandle handle) place)

/-- The event of a node. -/
def node (o : Outline) (position : Position) : Except Stop (Event × Outline) := do
  let t ← o.peek
  match t.kind with
  | .alias name => .ok (.alias name t.start, o.drop)
  | _ =>
    let (anchor, rawTag, since, o) ← o.nodeMarks
    let tag ← o.tagName since rawTag
    let t ← o.peek
    let head : NodeHead := ⟨anchor, tag, since.getD t.start⟩
    let isOpen := tag = none || tag = some "!"
    match t.kind, position with
    | .blockEntry, .underKey => .ok (.sequenceStart head, o.expect .indentlessSequence)
    | .scalar text isPlain, _ =>
      .ok (.scalar head text ((isPlain && tag = none) || tag = some "!"), o.drop)
    | .flowSequenceStart, _ =>
      .ok (.sequenceStart head, o.drop.expect (.flowSequence t.start true))
    | .flowMappingStart, _ => .ok (.mappingStart head, o.drop.expect (.flowKey t.start true))
    | .blockSequenceStart, .block | .blockSequenceStart, .underKey =>
      .ok (.sequenceStart head, o.drop.expect (.blockSequence t.start))
    | .blockMappingStart, .block | .blockMappingStart, .underKey =>
      .ok (.mappingStart head, o.drop.expect (.blockKey t.start))
    | _, _ =>
      if anchor.isSome || tag.isSome then .ok (.scalar head "" isOpen, o)
      else
        let activity := if position = .flow then .flowNode else .blockNode
        .error (problemIn activity head.start (.noContent t.kind) t.start)

/-- The directives ahead: whether a version was declared, and the declared handles. -/
def directives : List Token → Stop → (version : Bool) → (handles : List (String × String)) →
    Except Stop (List (String × String) × List Token)
  | [], mistake, _, _ => .error mistake
  | t :: rest, mistake, version, handles =>
    match t.kind with
    | .directive (.version major _) =>
      if version then .error (problemAt .repeatedVersion t.start)
      else if major ≠ 1 then .error (problemAt .wrongVersion t.start)
      else directives rest mistake true handles
    | .directive (.tag handle replacement) =>
      if (handles.lookup handle).isSome then .error (problemAt (.repeatedHandle handle) t.start)
      else directives rest mistake version (handles ++ [(handle, replacement)])
    | .directive (.other _) => directives rest mistake version handles
    | _ => .ok (handles, t :: rest)

/-- An explicit document, behind the ends of earlier ones, or the end of the stream. -/
def explicitDocument (o : Outline) : Except Stop (Event × Outline) := do
  let o := { o with ahead := o.ahead.dropWhile (·.kind == TokenKind.documentEnd) }
  let t ← o.peek
  if t.kind = .streamEnd then .ok (.streamEnd, o.drop)
  else
    let (declared, ahead) ← directives o.ahead o.mistake false []
    let o := { o with handles := declared ++ commonHandles, ahead := ahead }
    let u ← o.peek
    if u.kind = .documentStart then
      .ok (.documentStart t.start, (o.drop.expect .documentEnd).expect .documentContent)
    else .error (problemAt (.noDocumentStart u.kind) u.start)

/-- One step of the grammar: the next event, where `e` is the innermost expectation, which has
been taken off. -/
def step (o : Outline) (e : Expectation) : Except Stop (Event × Outline) := do
  match e with
  | .firstDocument =>
    let t ← o.peek
    match t.kind with
    | .directive _ | .documentStart | .streamEnd => o.explicitDocument
    | _ =>
      let o := { o with handles := commonHandles }
      .ok (.documentStart t.start, (o.expect .documentEnd).expect .blockNode)
  | .document => o.explicitDocument
  | .documentContent =>
    let t ← o.peek
    match t.kind with
    | .directive _ | .documentStart | .documentEnd | .streamEnd => .ok (emptyScalar t.start, o)
    | _ => o.node .block
  | .documentEnd =>
    let t ← o.peek
    let o := if t.kind = .documentEnd then o.drop else o
    .ok (.documentEnd, o.expect .document)
  | .blockNode => o.node .block
  | .blockSequence since =>
    let t ← o.peek
    match t.kind with
    | .blockEntry =>
      let o := o.drop.expect (.blockSequence since)
      match (← o.peek).kind with
      | .blockEntry | .blockEnd => .ok (emptyScalar t.stop, o)
      | _ => o.node .block
    | .blockEnd => .ok (.sequenceEnd, o.drop)
    | _ => .error (problemIn .blockCollection since (.noBlockEnd t.kind) t.start)
  | .indentlessSequence =>
    let t ← o.peek
    match t.kind with
    | .blockEntry =>
      let o := o.drop.expect .indentlessSequence
      match (← o.peek).kind with
      | .blockEntry | .key | .value | .blockEnd => .ok (emptyScalar t.stop, o)
      | _ => o.node .block
    | _ => .ok (.sequenceEnd, o)
  | .blockKey since =>
    let t ← o.peek
    match t.kind with
    | .key =>
      let o := o.drop.expect (.blockValue since)
      match (← o.peek).kind with
      | .key | .value | .blockEnd => .ok (emptyScalar t.stop, o)
      | _ => o.node .underKey
    | .blockEnd => .ok (.mappingEnd, o.drop)
    | _ => .error (problemIn .blockMapping since (.noBlockEnd t.kind) t.start)
  | .blockValue since =>
    let t ← o.peek
    match t.kind with
    | .value =>
      let o := o.drop.expect (.blockKey since)
      match (← o.peek).kind with
      | .key | .value | .blockEnd => .ok (emptyScalar t.stop, o)
      | _ => o.node .underKey
    | _ => .ok (emptyScalar t.start, o.expect (.blockKey since))
  | .flowSequence since first =>
    let t ← o.peek
    match t.kind with
    | .flowSequenceEnd => .ok (.sequenceEnd, o.drop)
    | _ =>
      if !first && t.kind ≠ .flowEntry then
        .error (problemIn .flowSequence since (.noSequenceEnd t.kind) t.start)
      else
        let o := if first then o else o.drop
        let t ← o.peek
        match t.kind with
        | .key => .ok (.mappingStart ⟨none, none, t.start⟩, o.expect (.pairKey since))
        | .flowSequenceEnd => .ok (.sequenceEnd, o.drop)
        | _ => (o.expect (.flowSequence since false)).node .flow
  | .pairKey since =>
    let t ← o.peek
    let o := o.drop.expect (.pairValue since)
    match (← o.peek).kind with
    | .value | .flowEntry | .flowSequenceEnd => .ok (emptyScalar t.stop, o)
    | _ => o.node .flow
  | .pairValue since =>
    let t ← o.peek
    match t.kind with
    | .value =>
      let o := o.drop.expect (.pairEnd since)
      match (← o.peek).kind with
      | .flowEntry | .flowSequenceEnd => .ok (emptyScalar t.stop, o)
      | _ => o.node .flow
    | _ => .ok (emptyScalar t.start, o.expect (.pairEnd since))
  | .pairEnd since =>
    let _ ← o.peek
    .ok (.mappingEnd, o.expect (.flowSequence since false))
  | .flowKey since first =>
    let t ← o.peek
    match t.kind with
    | .flowMappingEnd => .ok (.mappingEnd, o.drop)
    | _ =>
      if !first && t.kind ≠ .flowEntry then
        .error (problemIn .flowMapping since (.noMappingEnd t.kind) t.start)
      else
        let o := if first then o else o.drop
        let t ← o.peek
        match t.kind with
        | .key =>
          let o := o.drop.expect (.flowValue since)
          match (← o.peek).kind with
          | .value | .flowEntry | .flowMappingEnd => .ok (emptyScalar t.stop, o)
          | _ => o.node .flow
        | .flowMappingEnd => .ok (.mappingEnd, o.drop)
        | _ => (o.expect (.flowEmptyValue since)).node .flow
  | .flowValue since =>
    let t ← o.peek
    match t.kind with
    | .value =>
      let o := o.drop.expect (.flowKey since false)
      match (← o.peek).kind with
      | .flowEntry | .flowMappingEnd => .ok (emptyScalar t.stop, o)
      | _ => o.node .flow
    | _ => .ok (emptyScalar t.start, o.expect (.flowKey since false))
  | .flowEmptyValue since =>
    let t ← o.peek
    .ok (emptyScalar t.start, o.expect (.flowKey since false))

/-- The events from a state on, up to the end of the stream or the first mistake. -/
def run : (fuel : Nat) → Outline → List Event × Option Stop
  | 0, _ => ([], none)
  | fuel + 1, o =>
    match o.expected with
    | [] => ([], none)
    | e :: expected =>
      match step { o with expected := expected } e with
      | .error stop => ([], some stop)
      | .ok (event, o) =>
        let (events, stop) := run fuel o
        (event :: events, stop)

end Outline

/-- The events of a stream of tokens, up to the first mistake, and the mistake. -/
def events (tokens : List Token) (mistake : Option Stop) : List Event × Option Stop :=
  Outline.run (6 * tokens.length + 16)
    { expected := [.firstDocument], ahead := tokens.tail, mistake := mistake.getD .tooDeep,
      handles := [] }

end PackageGate.Yaml
