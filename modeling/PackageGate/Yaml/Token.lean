import PackageGate.Yaml.Mark

/-!
# Tokens

A document is first cut into tokens: scalars, anchors, aliases, tags and directives, the brackets
and separators of flow collections, and the virtual brackets that indentation stands for in block
collections. A key is marked by a token in front of it, even where only the colon behind it tells
that it is one.
-/

namespace PackageGate.Yaml

/-- What a directive line says. -/
inductive Directive where
  | version (major minor : Nat)
  | tag (handle replacement : String)
  | other (name : String)
deriving Repr, DecidableEq

/-- The kinds of tokens. A tag is a handle with a suffix, or, without handle, a whole name. -/
inductive TokenKind where
  | streamStart
  | streamEnd
  | directive (d : Directive)
  | documentStart
  | documentEnd
  | blockSequenceStart
  | blockMappingStart
  | blockEnd
  | flowSequenceStart
  | flowSequenceEnd
  | flowMappingStart
  | flowMappingEnd
  | key
  | value
  | blockEntry
  | flowEntry
  | alias (name : String)
  | anchor (name : String)
  | tag (handle : Option String) (suffix : String)
  | scalar (text : String) (isPlain : Bool)
deriving Repr, DecidableEq

instance : Inhabited TokenKind := ⟨.streamEnd⟩

/-- How messages name a token. -/
def TokenKind.name : TokenKind → String
  | .streamStart => "<stream start>"
  | .streamEnd => "<stream end>"
  | .directive _ => "<directive>"
  | .documentStart => "<document start>"
  | .documentEnd => "<document end>"
  | .blockSequenceStart => "<block sequence start>"
  | .blockMappingStart => "<block mapping start>"
  | .blockEnd => "<block end>"
  | .flowSequenceStart => "["
  | .flowSequenceEnd => "]"
  | .flowMappingStart => "\x7b"
  | .flowMappingEnd => "\x7d"
  | .key => "?"
  | .value => ":"
  | .blockEntry => "-"
  | .flowEntry => ","
  | .alias _ => "<alias>"
  | .anchor _ => "<anchor>"
  | .tag _ _ => "<tag>"
  | .scalar _ _ => "<scalar>"

/-- A token with the places where it begins and where it ends. -/
structure Token where
  kind : TokenKind
  start : Mark
  stop : Mark
deriving Repr, Inhabited

end PackageGate.Yaml
