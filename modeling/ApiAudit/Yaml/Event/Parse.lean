import ApiAudit.Yaml.Event
import ApiAudit.Yaml.Token.Stream

/-!
# Yaml/Event/Parse — grouping tokens into events

The grammar of a YAML stream, read one event at a time:

```text
stream            ::= STREAM-START implicit_document? explicit_document* STREAM-END
implicit_document ::= block_node DOCUMENT-END*
explicit_document ::= DIRECTIVE* DOCUMENT-START block_node? DOCUMENT-END*
block_node        ::= ALIAS | properties? (block_collection | flow_collection | SCALAR)
flow_node         ::= ALIAS | properties? (flow_collection | SCALAR)
properties        ::= TAG ANCHOR? | ANCHOR TAG?
block_sequence    ::= BLOCK-SEQUENCE-START (BLOCK-ENTRY block_node?)* BLOCK-END
indentless_seq    ::= (BLOCK-ENTRY block_node?)+
block_mapping     ::= BLOCK-MAPPING-START ((KEY node?)? (VALUE node?)?)* BLOCK-END
flow_sequence     ::= '[' (entry ',')* entry? ']'
flow_mapping      ::= '{' (entry ',')* entry? '}'
```

A `Parser` holds the scanner, the step to take next (`ParseStep`), the steps to come back to,
the start marks of the open collections, and the tag handles of the document.  A node left out
reads as an empty plain scalar.  A node with properties and no content is an empty scalar too.

Errors name the construct being read and the token found: `while parsing a block mapping` …
`expected <block end>, but found '<scalar>'`.
-/

namespace ApiAudit.Yaml

/-- The steps of parsing: what the next event is read as. -/
inductive ParseStep where
  | streamStart
  | implicitDocumentStart
  | documentStart
  | documentEnd
  | documentContent
  | blockNode
  | blockSequenceFirstEntry
  | blockSequenceEntry
  | indentlessSequenceEntry
  | blockMappingFirstKey
  | blockMappingKey
  | blockMappingValue
  | flowSequenceFirstEntry
  | flowSequenceEntry
  | flowSequenceEntryMappingKey
  | flowSequenceEntryMappingValue
  | flowSequenceEntryMappingEnd
  | flowMappingFirstKey
  | flowMappingKey
  | flowMappingValue
  | flowMappingEmptyValue
  | finished
  deriving Repr, DecidableEq

/-- The tag handles every document knows. -/
def defaultTagHandles : List (String × String) := [("!", "!"), ("!!", "tag:yaml.org,2002:")]

/-- The state of parsing. -/
structure Parser where
  scanner : Scanner
  step : ParseStep := .streamStart
  pending : List ParseStep := []
  marks : List Mark := []
  tagHandles : List (String × String) := []
  /-- The event read ahead and not yet taken. -/
  current : Option Event := none

/-- A parsing step: it reads and changes the parser, or fails. -/
abbrev Parse := StateT Parser (Except Error)

namespace Parse

/-- Runs a scanning step inside parsing. -/
def scan {α : Type} (m : Scan α) : Parse α := fun p =>
  match m p.scanner with
  | .ok (a, s) => .ok (a, { p with scanner := s })
  | .error e => .error e

/-- The next token, without taking it. -/
def peekToken : Parse Token := scan Scan.peekToken

/-- Takes the next token. -/
def nextToken : Parse Token := scan Scan.nextToken

/-- Whether the next token is of one of the given kinds. -/
def check (tags : List TokenTag) : Parse Bool := do pure ((← peekToken).isOneOf tags)

/-- Fails with a parsing error. -/
def fail {α : Type} (context : Option String) (contextMark : Option Mark) (problem : String)
    (problemMark : Mark) : Parse α :=
  throw (.marked .parser context contextMark problem problemMark)

/-- Sets the next step. -/
def goTo (s : ParseStep) : Parse Unit := modify fun p => { p with step := s }

/-- Remembers a step to come back to. -/
def pushStep (s : ParseStep) : Parse Unit := modify fun p => { p with pending := s :: p.pending }

/-- Comes back to the last remembered step. -/
def popStep : Parse Unit := modify fun p =>
  match p.pending with
  | s :: rest => { p with step := s, pending := rest }
  | [] => { p with step := .finished }

/-- Opens a collection at a mark. -/
def pushMark (m : Mark) : Parse Unit := modify fun p => { p with marks := m :: p.marks }

/-- The start mark of the innermost open collection. -/
def topMark : Parse Mark := do
  match (← get).marks with
  | m :: _ => pure m
  | [] => pure (← peekToken).start

/-- Closes the innermost collection. -/
def popMark : Parse Unit := modify fun p => { p with marks := p.marks.drop 1 }

/-- The quoted name of a token's kind, as errors show it. -/
def tokenName (t : Token) : String := Text.quote t.kind.name

/-- Reads the directives before an explicit document and sets its tag handles. -/
def directives : Parse Unit := do
  modify fun p => { p with tagHandles := [] }
  let rec go : Nat → Bool → Parse Unit
    | 0, _ => pure ()
    | fuel + 1, seenVersion => do
      let t ← peekToken
      match t.kind with
      | .directive _ value =>
        let _ ← nextToken
        match value with
        | .version major _ =>
          if seenVersion then fail none none "found duplicate YAML directive" t.start
          if major != 1 then
            fail none none "found incompatible YAML document (version 1.* is required)" t.start
          go fuel true
        | .tagPrefix handle pfx =>
          if ((← get).tagHandles.lookup handle).isSome then
            fail none none s!"duplicate tag handle {Text.quote handle}" t.start
          modify fun p => { p with tagHandles := p.tagHandles ++ [(handle, pfx)] }
          go fuel seenVersion
        | .other => go fuel seenVersion
      | _ => pure ()
  go ((← get).scanner.buf.size + 1) false
  for (h, pfx) in defaultTagHandles do
    if ((← get).tagHandles.lookup h).isNone then
      modify fun p => { p with tagHandles := p.tagHandles ++ [(h, pfx)] }

/-- The name an anchor or alias token carries. -/
def nameOf (t : Token) : String :=
  match t.kind with
  | .alias n => n
  | .anchor n => n
  | _ => ""

/-- The handle and suffix a tag token carries. -/
def tagOf (t : Token) : Option String × String :=
  match t.kind with
  | .tag h s => (h, s)
  | _ => (none, "")

/-- **Reads a node**: an alias, or properties followed by content.  `block` allows block
collections; `indentless` allows a sequence whose entries stand at the indentation of the
mapping around it. -/
def node (block indentless : Bool) : Parse Event := do
  let t ← peekToken
  if let .alias name := t.kind then
    let _ ← nextToken
    popStep
    return ⟨.alias name, t.start, t.stop⟩
  let (anchor, tag, startMark, stopMark, tagMark) ← do
    if t.kind.toTag == .anchor then
      let _ ← nextToken
      let t2 ← peekToken
      if t2.kind.toTag == .tag then
        let _ ← nextToken
        pure (some (nameOf t), some (tagOf t2), some t.start, some t2.stop, some t2.start)
      else pure (some (nameOf t), none, some t.start, some t.stop, none)
    else if t.kind.toTag == .tag then
      let _ ← nextToken
      let t2 ← peekToken
      if t2.kind.toTag == .anchor then
        let _ ← nextToken
        pure (some (nameOf t2), some (tagOf t), some t.start, some t2.stop, some t.start)
      else pure (none, some (tagOf t), some t.start, some t.stop, some t.start)
    else pure (none, none, none, none, none)
  let tag ← match tag with
    | none => pure none
    | some (none, suffix) => pure (some suffix)
    | some (some handle, suffix) =>
      match (← get).tagHandles.lookup handle with
      | some pfx => pure (some (pfx ++ suffix))
      | none =>
        let m := tagMark.getD t.start
        throw (.marked .parser (some "while parsing a node") startMark
          s!"found undefined tag handle {Text.quote handle}" m)
  let here ← peekToken
  let startMark := startMark.getD here.start
  let stopMark := stopMark.getD here.start
  let implicit := tag.isNone || tag == some "!"
  let next ← peekToken
  if indentless && next.kind.toTag == .blockEntry then
    goTo .indentlessSequenceEntry
    return ⟨.sequenceStart anchor tag implicit, startMark, next.stop⟩
  match next.kind with
  | .scalar value style =>
    let _ ← nextToken
    popStep
    let plain := style == .plain
    let (pi, qi) :=
      if (plain && tag.isNone) || tag == some "!" then (true, false)
      else if tag.isNone then (false, true)
      else (false, false)
    return ⟨.scalar anchor tag pi qi value, startMark, next.stop⟩
  | .flowSequenceStart =>
    goTo .flowSequenceFirstEntry
    return ⟨.sequenceStart anchor tag implicit, startMark, next.stop⟩
  | .flowMappingStart =>
    goTo .flowMappingFirstKey
    return ⟨.mappingStart anchor tag implicit, startMark, next.stop⟩
  | .blockSequenceStart =>
    if block then
      goTo .blockSequenceFirstEntry
      return ⟨.sequenceStart anchor tag implicit, startMark, next.start⟩
  | .blockMappingStart =>
    if block then
      goTo .blockMappingFirstKey
      return ⟨.mappingStart anchor tag implicit, startMark, next.start⟩
  | _ => pure ()
  if anchor.isSome || tag.isSome then
    popStep
    return ⟨.scalar anchor tag implicit false "", startMark, stopMark⟩
  let what := if block then "block" else "flow"
  fail (some s!"while parsing a {what} node") (some startMark)
    s!"expected the node content, but found {tokenName next}" next.start

/-- The start of the stream. -/
def streamStart : Parse Event := do
  let t ← nextToken
  goTo .implicitDocumentStart
  return ⟨.streamStart, t.start, t.stop⟩

/-- The start of an explicit document, or the end of the stream. -/
def documentStart : Parse Event := do
  let rec skipEnds : Nat → Parse Unit
    | 0 => pure ()
    | fuel + 1 => do
      if ← check [.documentEnd] then
        let _ ← nextToken
        skipEnds fuel
      else pure ()
  skipEnds ((← get).scanner.buf.size + 1)
  if ← check [.streamEnd] then
    let t ← nextToken
    goTo .finished
    return ⟨.streamEnd, t.start, t.stop⟩
  let startMark := (← peekToken).start
  directives
  let t ← peekToken
  if t.kind.toTag != .documentStart then
    fail none none s!"expected '<document start>', but found {tokenName t}" t.start
  let t ← nextToken
  pushStep .documentEnd
  goTo .documentContent
  return ⟨.documentStart true, startMark, t.stop⟩

/-- The start of a document without `---`, when the stream goes straight to content. -/
def implicitDocumentStart : Parse Event := do
  if ← check [.directive, .documentStart, .streamEnd] then documentStart
  else
    modify fun p => { p with tagHandles := defaultTagHandles }
    let t ← peekToken
    pushStep .documentEnd
    goTo .blockNode
    return ⟨.documentStart false, t.start, t.start⟩

/-- The end of a document, with or without `...`. -/
def documentEnd : Parse Event := do
  let t ← peekToken
  goTo .documentStart
  if t.kind.toTag == .documentEnd then
    let t' ← nextToken
    return ⟨.documentEnd true, t.start, t'.stop⟩
  return ⟨.documentEnd false, t.start, t.start⟩

/-- The content of an explicit document, which may be empty. -/
def documentContent : Parse Event := do
  if ← check [.directive, .documentStart, .documentEnd, .streamEnd] then
    let m := (← peekToken).start
    popStep
    return Event.emptyScalar m
  node true false

/-- An entry of a block sequence, or its end. -/
def blockSequenceEntry : Parse Event := do
  let t ← peekToken
  if t.kind.toTag == .blockEntry then
    let t ← nextToken
    if ← check [.blockEntry, .blockEnd] then
      goTo .blockSequenceEntry
      return Event.emptyScalar t.stop
    pushStep .blockSequenceEntry
    return ← node true false
  if t.kind.toTag != .blockEnd then
    fail (some "while parsing a block collection") (some (← topMark))
      s!"expected <block end>, but found {tokenName t}" t.start
  let t ← nextToken
  popStep
  popMark
  return ⟨.sequenceEnd, t.start, t.stop⟩

/-- The first entry of a block sequence. -/
def blockSequenceFirstEntry : Parse Event := do
  let t ← nextToken
  pushMark t.start
  blockSequenceEntry

/-- An entry of a sequence written at its mapping's indentation, or its end. -/
def indentlessSequenceEntry : Parse Event := do
  let t ← peekToken
  if t.kind.toTag == .blockEntry then
    let t ← nextToken
    if ← check [.blockEntry, .key, .value, .blockEnd] then
      goTo .indentlessSequenceEntry
      return Event.emptyScalar t.stop
    pushStep .indentlessSequenceEntry
    return ← node true false
  popStep
  return ⟨.sequenceEnd, t.start, t.start⟩

/-- A key of a block mapping, or its end. -/
def blockMappingKey : Parse Event := do
  let t ← peekToken
  if t.kind.toTag == .key then
    let t ← nextToken
    if ← check [.key, .value, .blockEnd] then
      goTo .blockMappingValue
      return Event.emptyScalar t.stop
    pushStep .blockMappingValue
    return ← node true true
  if t.kind.toTag != .blockEnd then
    fail (some "while parsing a block mapping") (some (← topMark))
      s!"expected <block end>, but found {tokenName t}" t.start
  let t ← nextToken
  popStep
  popMark
  return ⟨.mappingEnd, t.start, t.stop⟩

/-- The first key of a block mapping. -/
def blockMappingFirstKey : Parse Event := do
  let t ← nextToken
  pushMark t.start
  blockMappingKey

/-- A value of a block mapping; a missing one is empty. -/
def blockMappingValue : Parse Event := do
  let t ← peekToken
  if t.kind.toTag == .value then
    let t ← nextToken
    if ← check [.key, .value, .blockEnd] then
      goTo .blockMappingKey
      return Event.emptyScalar t.stop
    pushStep .blockMappingKey
    return ← node true true
  goTo .blockMappingKey
  return Event.emptyScalar t.start

/-- An entry of a flow sequence, or its end; `first` when no entry came before. -/
def flowSequenceEntryAt (first : Bool) : Parse Event := do
  if !(← check [.flowSequenceEnd]) then
    if !first then
      let t ← peekToken
      if t.kind.toTag == .flowEntry then
        let _ ← nextToken
      else
        fail (some "while parsing a flow sequence") (some (← topMark))
          s!"expected ',' or ']', but got {tokenName t}" t.start
    let t ← peekToken
    if t.kind.toTag == .key then
      goTo .flowSequenceEntryMappingKey
      return ⟨.mappingStart none none true, t.start, t.stop⟩
    if t.kind.toTag != .flowSequenceEnd then
      pushStep .flowSequenceEntry
      return ← node false false
  let t ← nextToken
  popStep
  popMark
  return ⟨.sequenceEnd, t.start, t.stop⟩

/-- The first entry of a flow sequence. -/
def flowSequenceFirstEntry : Parse Event := do
  let t ← nextToken
  pushMark t.start
  flowSequenceEntryAt true

/-- The key of a single-pair mapping inside a flow sequence. -/
def flowSequenceEntryMappingKey : Parse Event := do
  let t ← nextToken
  if ← check [.value, .flowEntry, .flowSequenceEnd] then
    goTo .flowSequenceEntryMappingValue
    return Event.emptyScalar t.stop
  pushStep .flowSequenceEntryMappingValue
  node false false

/-- The value of a single-pair mapping inside a flow sequence. -/
def flowSequenceEntryMappingValue : Parse Event := do
  let t ← peekToken
  if t.kind.toTag == .value then
    let t ← nextToken
    if ← check [.flowEntry, .flowSequenceEnd] then
      goTo .flowSequenceEntryMappingEnd
      return Event.emptyScalar t.stop
    pushStep .flowSequenceEntryMappingEnd
    return ← node false false
  goTo .flowSequenceEntryMappingEnd
  return Event.emptyScalar t.start

/-- The end of a single-pair mapping inside a flow sequence. -/
def flowSequenceEntryMappingEnd : Parse Event := do
  goTo .flowSequenceEntry
  let t ← peekToken
  return ⟨.mappingEnd, t.start, t.start⟩

/-- A key of a flow mapping, or its end; `first` when no entry came before. -/
def flowMappingKeyAt (first : Bool) : Parse Event := do
  if !(← check [.flowMappingEnd]) then
    if !first then
      let t ← peekToken
      if t.kind.toTag == .flowEntry then
        let _ ← nextToken
      else
        fail (some "while parsing a flow mapping") (some (← topMark))
          s!"expected ',' or '\x7d', but got {tokenName t}" t.start
    let t ← peekToken
    if t.kind.toTag == .key then
      let t ← nextToken
      if ← check [.value, .flowEntry, .flowMappingEnd] then
        goTo .flowMappingValue
        return Event.emptyScalar t.stop
      pushStep .flowMappingValue
      return ← node false false
    if t.kind.toTag != .flowMappingEnd then
      pushStep .flowMappingEmptyValue
      return ← node false false
  let t ← nextToken
  popStep
  popMark
  return ⟨.mappingEnd, t.start, t.stop⟩

/-- The first key of a flow mapping. -/
def flowMappingFirstKey : Parse Event := do
  let t ← nextToken
  pushMark t.start
  flowMappingKeyAt true

/-- A value of a flow mapping; a missing one is empty. -/
def flowMappingValue : Parse Event := do
  let t ← peekToken
  if t.kind.toTag == .value then
    let t ← nextToken
    if ← check [.flowEntry, .flowMappingEnd] then
      goTo .flowMappingKey
      return Event.emptyScalar t.stop
    pushStep .flowMappingKey
    return ← node false false
  goTo .flowMappingKey
  return Event.emptyScalar t.start

/-- The empty value of a flow mapping entry written without `:`. -/
def flowMappingEmptyValue : Parse Event := do
  goTo .flowMappingKey
  return Event.emptyScalar (← peekToken).start

/-- **Reads the next event** by the current step. -/
def step : Parse Event := do
  match (← get).step with
  | .streamStart => streamStart
  | .implicitDocumentStart => implicitDocumentStart
  | .documentStart => documentStart
  | .documentEnd => documentEnd
  | .documentContent => documentContent
  | .blockNode => node true false
  | .blockSequenceFirstEntry => blockSequenceFirstEntry
  | .blockSequenceEntry => blockSequenceEntry
  | .indentlessSequenceEntry => indentlessSequenceEntry
  | .blockMappingFirstKey => blockMappingFirstKey
  | .blockMappingKey => blockMappingKey
  | .blockMappingValue => blockMappingValue
  | .flowSequenceFirstEntry => flowSequenceFirstEntry
  | .flowSequenceEntry => flowSequenceEntryAt false
  | .flowSequenceEntryMappingKey => flowSequenceEntryMappingKey
  | .flowSequenceEntryMappingValue => flowSequenceEntryMappingValue
  | .flowSequenceEntryMappingEnd => flowSequenceEntryMappingEnd
  | .flowMappingFirstKey => flowMappingFirstKey
  | .flowMappingKey => flowMappingKeyAt false
  | .flowMappingValue => flowMappingValue
  | .flowMappingEmptyValue => flowMappingEmptyValue
  | .finished =>
    let m := (← get).scanner.mark
    return ⟨.streamEnd, m, m⟩

/-- **The next event**, without taking it. -/
def peekEvent : Parse Event := do
  match (← get).current with
  | some e => pure e
  | none =>
    let e ← step
    modify fun p => { p with current := some e }
    pure e

/-- **Takes the next event.** -/
def nextEvent : Parse Event := do
  let e ← peekEvent
  modify fun p => { p with current := none }
  pure e

end Parse

/-- A parser at the start of a text. -/
def Parser.start (text : String) : Parser := { scanner := Scan.Scanner.start text }

end ApiAudit.Yaml
