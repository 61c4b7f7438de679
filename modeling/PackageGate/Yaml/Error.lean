import PackageGate.Yaml.Fault
import PackageGate.Yaml.Token
import PackageGate.Text.Utf8

/-!
# What is wrong with a document

An error says what was going on and where that began, what the problem is, and where it was found.
The place of the activity is left out if it is the place of the problem.

Two things stop the reading of a document besides an error: a scalar without a value, and
collections that are nested too deeply.
-/

namespace PackageGate.Yaml

/-- What was going on when a problem was found. -/
inductive Activity where
  | simpleKey
  | nextToken
  | directive
  | alias
  | anchor
  | tag
  | tagText
  | directiveTagText
  | blockScalar
  | doubleQuoted
  | quotedScalar
  | node
  | blockNode
  | flowNode
  | blockCollection
  | blockMapping
  | flowSequence
  | flowMapping
  | firstAnchor (name : String)
  | singleDocument
  | mappingValue
  | orderedMap
  | pairs
deriving Repr, DecidableEq

/-- The wording of an activity. -/
def Activity.message : Activity → String
  | .simpleKey => "while scanning a simple key"
  | .nextToken => "while scanning for the next token"
  | .directive => "while scanning a directive"
  | .alias => "while scanning an alias"
  | .anchor => "while scanning an anchor"
  | .tag => "while scanning a tag"
  | .tagText => "while parsing a tag"
  | .directiveTagText => "while parsing a directive"
  | .blockScalar => "while scanning a block scalar"
  | .doubleQuoted => "while scanning a double-quoted scalar"
  | .quotedScalar => "while scanning a quoted scalar"
  | .node => "while parsing a node"
  | .blockNode => "while parsing a block node"
  | .flowNode => "while parsing a flow node"
  | .blockCollection => "while parsing a block collection"
  | .blockMapping => "while parsing a block mapping"
  | .flowSequence => "while parsing a flow sequence"
  | .flowMapping => "while parsing a flow mapping"
  | .firstAnchor name => s!"found duplicate anchor {Text.quoted name}; first occurrence"
  | .singleDocument => "expected a single document in the stream"
  | .mappingValue => "while constructing a mapping"
  | .orderedMap => "while constructing an ordered map"
  | .pairs => "while constructing pairs"

/-- The kinds of nodes, as messages name them. -/
inductive NodeKind where
  | scalar
  | sequence
  | mapping
deriving Repr, DecidableEq

/-- The word for a kind of node. -/
def NodeKind.word : NodeKind → String
  | .scalar => "scalar"
  | .sequence => "sequence"
  | .mapping => "mapping"

/-- The problems that make a document malformed. -/
inductive Problem where
  | missingColon
  | noTokenStart (found : Char)
  | notAlphanumeric (found : Char)
  | notDigit (found : Char)
  | notDigitOrPoint (found : Char)
  | notDigitOrSpace (found : Char)
  | notSpace (found : Char)
  | notCommentOrBreak (found : Char)
  | notBang (found : Char)
  | notAngle (found : Char)
  | notUri (found : Char)
  | notUriEscape (found : Char)
  | badUriBytes (bytes : List UInt8) (flaw : Text.Utf8.Flaw)
  | zeroIndent
  | notBlockHeader (found : Char)
  | unknownEscape (found : Char)
  | notHex (count : Nat) (found : Char)
  | endInQuotes
  | separatorInQuotes
  | entryNotAllowed
  | keyNotAllowed
  | valueNotAllowed
  | noDocumentStart (found : TokenKind)
  | repeatedVersion
  | wrongVersion
  | repeatedHandle (handle : String)
  | unknownHandle (handle : String)
  | noContent (found : TokenKind)
  | noBlockEnd (found : TokenKind)
  | noSequenceEnd (found : TokenKind)
  | noMappingEnd (found : TokenKind)
  | unknownAlias (name : String)
  | secondAnchor
  | secondDocument
  | unknownTag (name : String)
  | unhashableKey
  | notScalarNode (found : NodeKind)
  | notSequenceNode (found : NodeKind)
  | notMappingNode (found : NodeKind)
  | notMergeable (found : NodeKind)
  | notMergeableItem (found : NodeKind)
  | notSequence (found : NodeKind)
  | notSingleMapping (found : NodeKind)
  | notSingleItem (count : Nat)
  | notAsciiData (text : List Char)
  | badPadding
  | badDataLength (characters : Nat)
deriving Repr, DecidableEq

/-- Which bytes of an escape sequence are no UTF-8. -/
def badBytesMessage (bytes : List UInt8) (flaw : Text.Utf8.Flaw) : String :=
  let place :=
    if flaw.span = 1 then
      let b := ((bytes[flaw.offset]?).getD 0).toNat
      s!"byte 0x{String.ofList (Text.hex 2 b)} in position {flaw.offset}"
    else s!"bytes in position {flaw.offset}-{flaw.offset + flaw.span - 1}"
  s!"'utf-8' codec can't decode {place}: {flaw.reason.message}"

/-- Which characters of a text are no ASCII: the first of them, with those that follow it. -/
def notAsciiMessage (text : List Char) : String :=
  let before := text.takeWhile (·.toNat < 128)
  let found := (text.drop before.length).takeWhile (128 ≤ ·.toNat)
  let place := match found with
    | [c] => s!"character '{String.ofList (Text.Quoted.numbered c.toNat)}' in position " ++
        s!"{before.length}"
    | _ => s!"characters in position {before.length}-{before.length + found.length - 1}"
  s!"'ascii' codec can't encode {place}: ordinal not in range(128)"

/-- The wording of a problem. -/
def Problem.message : Problem → String
  | .missingColon => "could not find expected ':'"
  | .noTokenStart c => s!"found character {Text.quotedChar c} that cannot start any token"
  | .notAlphanumeric c =>
    s!"expected alphabetic or numeric character, but found {Text.quotedChar c}"
  | .notDigit c => s!"expected a digit, but found {Text.quotedChar c}"
  | .notDigitOrPoint c => s!"expected a digit or '.', but found {Text.quotedChar c}"
  | .notDigitOrSpace c => s!"expected a digit or ' ', but found {Text.quotedChar c}"
  | .notSpace c => s!"expected ' ', but found {Text.quotedChar c}"
  | .notCommentOrBreak c =>
    s!"expected a comment or a line break, but found {Text.quotedChar c}"
  | .notBang c => s!"expected '!', but found {Text.quotedChar c}"
  | .notAngle c => s!"expected '>', but found {Text.quotedChar c}"
  | .notUri c => s!"expected URI, but found {Text.quotedChar c}"
  | .notUriEscape c =>
    "expected URI escape sequence of 2 hexadecimal numbers, but found " ++ Text.quotedChar c
  | .badUriBytes bytes flaw => badBytesMessage bytes flaw
  | .zeroIndent => "expected indentation indicator in the range 1-9, but found 0"
  | .notBlockHeader c =>
    s!"expected chomping or indentation indicators, but found {Text.quotedChar c}"
  | .unknownEscape c => s!"found unknown escape character {Text.quotedChar c}"
  | .notHex count c =>
    s!"expected escape sequence of {count} hexadecimal numbers, but found {Text.quotedChar c}"
  | .endInQuotes => "found unexpected end of stream"
  | .separatorInQuotes => "found unexpected document separator"
  | .entryNotAllowed => "sequence entries are not allowed here"
  | .keyNotAllowed => "mapping keys are not allowed here"
  | .valueNotAllowed => "mapping values are not allowed here"
  | .noDocumentStart found =>
    s!"expected '<document start>', but found {Text.quoted found.name}"
  | .repeatedVersion => "found duplicate YAML directive"
  | .wrongVersion => "found incompatible YAML document (version 1.* is required)"
  | .repeatedHandle handle => s!"duplicate tag handle {Text.quoted handle}"
  | .unknownHandle handle => s!"found undefined tag handle {Text.quoted handle}"
  | .noContent found => s!"expected the node content, but found {Text.quoted found.name}"
  | .noBlockEnd found => s!"expected <block end>, but found {Text.quoted found.name}"
  | .noSequenceEnd found => s!"expected ',' or ']', but got {Text.quoted found.name}"
  | .noMappingEnd found => s!"expected ',' or '\x7d', but got {Text.quoted found.name}"
  | .unknownAlias name => s!"found undefined alias {Text.quoted name}"
  | .secondAnchor => "second occurrence"
  | .secondDocument => "but found another document"
  | .unknownTag name => s!"could not determine a constructor for the tag {Text.quoted name}"
  | .unhashableKey => "found unhashable key"
  | .notScalarNode found => s!"expected a scalar node, but found {found.word}"
  | .notSequenceNode found => s!"expected a sequence node, but found {found.word}"
  | .notMappingNode found => s!"expected a mapping node, but found {found.word}"
  | .notMergeable found =>
    s!"expected a mapping or list of mappings for merging, but found {found.word}"
  | .notMergeableItem found => s!"expected a mapping for merging, but found {found.word}"
  | .notSequence found => s!"expected a sequence, but found {found.word}"
  | .notSingleMapping found => s!"expected a mapping of length 1, but found {found.word}"
  | .notSingleItem count => s!"expected a single mapping item, but found {count} items"
  | .notAsciiData text => s!"failed to convert base64 data into ascii: {notAsciiMessage text}"
  | .badPadding => "failed to decode base64 data: Incorrect padding"
  | .badDataLength characters =>
    "failed to decode base64 data: Invalid base64-encoded string: number of data characters " ++
      s!"({characters}) cannot be 1 more than a multiple of 4"

/-- A problem with its place, and what was going on since which place. -/
structure Error where
  activity : Option (Activity × Option Mark)
  problem : Problem
  mark : Mark
deriving Repr, DecidableEq

/-- The lines of an error about a document. -/
def Error.message (e : Error) (text : List Char) : String :=
  let context := match e.activity with
    | none => []
    | some (activity, none) => [activity.message]
    | some (activity, some m) =>
      if m.line = e.mark.line ∧ m.column = e.mark.column then [activity.message]
      else [activity.message, m.describe text]
  "\n".intercalate (context ++ [e.problem.message, e.mark.describe text])

/-- What ends the reading of a document before its value is known. -/
inductive Stop where
  | malformed (e : Error)
  | fault (f : Fault)
  | tooDeep
deriving Repr, DecidableEq

/-- A problem that was found while something was going on. -/
def problemIn (activity : Activity) (since : Mark) (problem : Problem) (mark : Mark) : Stop :=
  .malformed ⟨some (activity, some since), problem, mark⟩

/-- A problem by itself. -/
def problemAt (problem : Problem) (mark : Mark) : Stop := .malformed ⟨none, problem, mark⟩

end PackageGate.Yaml
