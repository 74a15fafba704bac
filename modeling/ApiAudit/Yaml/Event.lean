import ApiAudit.Yaml.Mark

/-!
# Yaml/Event — the events of a YAML text

The tokens of a text are grouped into **events**: the stream's and each document's start and
end, aliases, scalars, and the starts and ends of sequences and mappings.  A node's events carry
its anchor and its tag as written (handles already expanded).

A scalar event also records whether its tag may be **resolved from its text**: `plainImplicit`
when it was written plain without a tag (or with the non-specific tag `!`), `quotedImplicit`
when it was quoted without a tag.  A collection start records whether it had no specific tag.
-/

namespace ApiAudit.Yaml

/-- The kinds of events, with what each carries. -/
inductive EventKind where
  | streamStart
  | streamEnd
  | documentStart (explicit : Bool)
  | documentEnd (explicit : Bool)
  | alias (anchor : String)
  | scalar (anchor : Option String) (tag : Option String) (plainImplicit quotedImplicit : Bool)
      (value : String)
  | sequenceStart (anchor : Option String) (tag : Option String) (implicit : Bool)
  | sequenceEnd
  | mappingStart (anchor : Option String) (tag : Option String) (implicit : Bool)
  | mappingEnd
  deriving Repr, DecidableEq

/-- An event with the marks where it starts and stops. -/
structure Event where
  kind : EventKind
  start : Mark
  stop : Mark
  deriving Repr

/-- The anchor an event's node carries, if any. -/
def EventKind.anchor? : EventKind → Option String
  | .scalar a .. => a
  | .sequenceStart a .. => a
  | .mappingStart a .. => a
  | _ => none

/-- Whether an event is the end of the stream. -/
def EventKind.isStreamEnd : EventKind → Bool
  | .streamEnd => true
  | _ => false

/-- Whether an event ends a sequence. -/
def EventKind.isSequenceEnd : EventKind → Bool
  | .sequenceEnd => true
  | _ => false

/-- Whether an event ends a mapping. -/
def EventKind.isMappingEnd : EventKind → Bool
  | .mappingEnd => true
  | _ => false

/-- An empty plain scalar at a mark: what an omitted node stands for. -/
def Event.emptyScalar (m : Mark) : Event := ⟨.scalar none none true false "", m, m⟩

end ApiAudit.Yaml
