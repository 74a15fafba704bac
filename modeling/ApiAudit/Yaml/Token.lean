import ApiAudit.Yaml.Mark

/-!
# Yaml/Token — the tokens of a YAML text

A YAML text is read as a stream of **tokens**: the stream's ends, directives, document markers,
the starts and ends of block and flow collections, the indicators of entries, keys and values,
node properties (anchors, aliases, tags) and scalars.  Block collections have no written start:
their start tokens are placed where indentation and keys show one (`Yaml/Token/Stream`).

Each kind has a **name** used in messages: `<block end>`, `<scalar>`, `[`, `-`, …
-/

namespace ApiAudit.Yaml

/-- How a scalar is written. -/
inductive ScalarStyle where
  | plain
  | single
  | double
  | literal
  | folded
  deriving Repr, DecidableEq

/-- What a directive says. -/
inductive DirectiveValue where
  /-- `%YAML major.minor`. -/
  | version (major minor : Nat)
  /-- `%TAG handle prefix`. -/
  | tagPrefix (handle pfx : String)
  /-- A directive of another name, ignored. -/
  | other
  deriving Repr, DecidableEq

/-- The kinds of tokens, with what each carries. -/
inductive TokenKind where
  | streamStart
  | streamEnd
  | directive (name : String) (value : DirectiveValue)
  | documentStart
  | documentEnd
  | blockSequenceStart
  | blockMappingStart
  | blockEnd
  | flowSequenceStart
  | flowMappingStart
  | flowSequenceEnd
  | flowMappingEnd
  | blockEntry
  | flowEntry
  | key
  | value
  | alias (name : String)
  | anchor (name : String)
  /-- A tag: its handle (none for a verbatim tag) and its suffix. -/
  | tag (handle : Option String) (suffix : String)
  | scalar (text : String) (style : ScalarStyle)
  deriving Repr, DecidableEq

/-- The name of a token kind in messages. -/
def TokenKind.name : TokenKind → String
  | .streamStart => "<stream start>"
  | .streamEnd => "<stream end>"
  | .directive .. => "<directive>"
  | .documentStart => "<document start>"
  | .documentEnd => "<document end>"
  | .blockSequenceStart => "<block sequence start>"
  | .blockMappingStart => "<block mapping start>"
  | .blockEnd => "<block end>"
  | .flowSequenceStart => "["
  | .flowMappingStart => "\x7b"
  | .flowSequenceEnd => "]"
  | .flowMappingEnd => "\x7d"
  | .blockEntry => "-"
  | .flowEntry => ","
  | .key => "?"
  | .value => ":"
  | .alias _ => "<alias>"
  | .anchor _ => "<anchor>"
  | .tag .. => "<tag>"
  | .scalar .. => "<scalar>"

/-- A token with the marks where it starts and stops. -/
structure Token where
  kind : TokenKind
  start : Mark
  stop : Mark
  deriving Repr

/-- The kinds of tokens without payload, to test a token's kind against. -/
inductive TokenTag where
  | streamStart | streamEnd | directive | documentStart | documentEnd
  | blockSequenceStart | blockMappingStart | blockEnd
  | flowSequenceStart | flowMappingStart | flowSequenceEnd | flowMappingEnd
  | blockEntry | flowEntry | key | value | alias | anchor | tag | scalar
  deriving Repr, DecidableEq

/-- The payload-free kind of a token kind. -/
def TokenKind.toTag : TokenKind → TokenTag
  | .streamStart => .streamStart
  | .streamEnd => .streamEnd
  | .directive .. => .directive
  | .documentStart => .documentStart
  | .documentEnd => .documentEnd
  | .blockSequenceStart => .blockSequenceStart
  | .blockMappingStart => .blockMappingStart
  | .blockEnd => .blockEnd
  | .flowSequenceStart => .flowSequenceStart
  | .flowMappingStart => .flowMappingStart
  | .flowSequenceEnd => .flowSequenceEnd
  | .flowMappingEnd => .flowMappingEnd
  | .blockEntry => .blockEntry
  | .flowEntry => .flowEntry
  | .key => .key
  | .value => .value
  | .alias _ => .alias
  | .anchor _ => .anchor
  | .tag .. => .tag
  | .scalar .. => .scalar

/-- Whether a token is of one of the given kinds. -/
def Token.isOneOf (t : Token) (tags : List TokenTag) : Bool := tags.contains t.kind.toTag

end ApiAudit.Yaml
