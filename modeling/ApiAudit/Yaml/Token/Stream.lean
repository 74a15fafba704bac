import ApiAudit.Yaml.Token.Scalar
import ApiAudit.Yaml.Token.Property

/-!
# Yaml/Token/Stream — the token stream: indentation, simple keys, and handing tokens out

Tokens are produced on demand.  Each round (`fetchMore`) skips blanks, comments and line
breaks, closes the block collections indented deeper than the current column (one
`<block end>` each), and reads one token by its first character.

**Block collections.**  The scanner keeps a stack of indentations.  A `-` entry, a `?` key or a
`:` value at a column deeper than the current indentation opens a block sequence or mapping
there.

**Simple keys.**  A key need not be announced by `?`: any node on one line may turn out to be a
key when a `:` follows it.  So the scanner remembers, per flow level, where the last such node
started; a `:` then inserts the `?` token (and, in block context, the mapping start) before it.
A remembered place goes stale when the line ends or 1024 characters pass; in block context a
node at exactly the indentation of its mapping *must* be a key, and its going stale is an error.

While a remembered place could still become a key, the tokens from it on are held back:
`ensureTokens` keeps reading until the next token to hand out can no longer change.
-/

namespace ApiAudit.Yaml.Scan

/-- The remembered simple key at the current flow level, if any. -/
def currentKey : Scan (Option SimpleKey) := do
  let s ← get
  pure ((s.simpleKeys.find? (·.1 == s.flowLevel)).map (·.2))

/-- Forgets the simple key at the current flow level; one that was required is an error. -/
def removeSimpleKey : Scan Unit := do
  match ← currentKey with
  | some key =>
    if key.required then
      fail (some "while scanning a simple key") (some key.mark) "could not find expected ':'"
    modify fun s => { s with simpleKeys := s.simpleKeys.filter (·.1 != s.flowLevel) }
  | none => pure ()

/-- Forgets the simple keys that can no longer be keys: those of an earlier line, or more than
1024 characters back.  A required one is an error. -/
def staleSimpleKeys : Scan Unit := do
  let s ← get
  for (_, key) in s.simpleKeys do
    if key.mark.line != s.mark.line || s.mark.index - key.mark.index > 1024 then
      if key.required then
        fail (some "while scanning a simple key") (some key.mark) "could not find expected ':'"
  modify fun s => { s with
    simpleKeys := s.simpleKeys.filter fun (_, key) =>
      key.mark.line == s.mark.line && s.mark.index - key.mark.index ≤ 1024 }

/-- Remembers the current position as a possible simple key, when simple keys are allowed. -/
def saveSimpleKey : Scan Unit := do
  let s ← get
  let required := s.flowLevel == 0 && s.indent == (s.mark.column : Int)
  if s.allowSimpleKey then
    removeSimpleKey
    let s ← get
    let key : SimpleKey := ⟨s.taken + s.tokens.length, required, s.mark⟩
    let kept := s.simpleKeys.filter fun (e : Int × SimpleKey) => e.1 != s.flowLevel
    set { s with simpleKeys := kept ++ [(s.flowLevel, key)] }

/-- The smallest token number among the remembered simple keys. -/
def nextSimpleKeyNumber (s : Scanner) : Option Nat :=
  s.simpleKeys.foldl (fun acc (_, key) =>
    match acc with
    | some n => some (min n key.tokenNumber)
    | none => some key.tokenNumber) none

/-- Closes the block collections indented deeper than `column`, one `<block end>` each.  In
flow context indentation is not tracked. -/
def unwindIndent (column : Int) : Scan Unit := do
  if (← get).flowLevel != 0 then return
  let rec go : List Int → Scan Unit
    | [] => pure ()
    | top :: rest => do
      let s ← get
      if s.indent > column then
        let m := s.mark
        set { s with indent := top, indents := rest, tokens := s.tokens ++ [({ kind := .blockEnd, start := m, stop := m } : Token)] }
        go rest
      else pure ()
  go (← get).indents

/-- Opens a deeper indentation at `column`, if it is deeper; says whether it did. -/
def addIndent (column : Int) : Scan Bool := do
  let s ← get
  if s.indent < column then
    set { s with indents := s.indent :: s.indents, indent := column }
    pure true
  else pure false

/-- Adds a one-character indicator token and moves over it. -/
def indicator (k : TokenKind) : Scan Unit := do
  let start ← mark
  forward 1
  push ⟨k, start, ← mark⟩

/-- Ends the stream. -/
def fetchStreamEnd : Scan Unit := do
  unwindIndent (-1)
  removeSimpleKey
  let m ← mark
  let t : Token := ⟨.streamEnd, m, m⟩
  modify fun s => { s with allowSimpleKey := false, simpleKeys := [], finished := true }
  push t

/-- Reads a directive. -/
def fetchDirective : Scan Unit := do
  unwindIndent (-1)
  removeSimpleKey
  modify fun s => { s with allowSimpleKey := false }
  push (← scanDirective)

/-- Reads a document marker, `---` or `...`. -/
def fetchDocumentIndicator (k : TokenKind) : Scan Unit := do
  unwindIndent (-1)
  removeSimpleKey
  modify fun s => { s with allowSimpleKey := false }
  let start ← mark
  forward 3
  push ⟨k, start, ← mark⟩

/-- Reads `[` or `{`. -/
def fetchFlowCollectionStart (k : TokenKind) : Scan Unit := do
  saveSimpleKey
  modify fun s => { s with flowLevel := s.flowLevel + 1, allowSimpleKey := true }
  indicator k

/-- Reads `]` or `}`. -/
def fetchFlowCollectionEnd (k : TokenKind) : Scan Unit := do
  removeSimpleKey
  modify fun s => { s with flowLevel := s.flowLevel - 1, allowSimpleKey := false }
  indicator k

/-- Reads `,`. -/
def fetchFlowEntry : Scan Unit := do
  modify fun s => { s with allowSimpleKey := true }
  removeSimpleKey
  indicator .flowEntry

/-- Reads `-`, opening a block sequence when it stands deeper than the indentation. -/
def fetchBlockEntry : Scan Unit := do
  let s ← get
  if s.flowLevel == 0 then
    if !s.allowSimpleKey then fail none none "sequence entries are not allowed here"
    if ← addIndent s.mark.column then
      let m ← mark
      push ⟨.blockSequenceStart, m, m⟩
  modify fun s => { s with allowSimpleKey := true }
  removeSimpleKey
  indicator .blockEntry

/-- Reads `?`, opening a block mapping when it stands deeper than the indentation. -/
def fetchKey : Scan Unit := do
  let s ← get
  if s.flowLevel == 0 then
    if !s.allowSimpleKey then fail none none "mapping keys are not allowed here"
    if ← addIndent s.mark.column then
      let m ← mark
      push ⟨.blockMappingStart, m, m⟩
  modify fun s => { s with allowSimpleKey := s.flowLevel == 0 }
  removeSimpleKey
  indicator .key

/-- Puts a token into the queue at a position counted over all tokens handed out. -/
def insertAt (number : Nat) (t : Token) : Scan Unit :=
  modify fun s =>
    let i := number - s.taken
    { s with tokens := s.tokens.take i ++ t :: s.tokens.drop i }

/-- Reads `:`: it makes the remembered simple key a key, or stands for a complex key's value. -/
def fetchValue : Scan Unit := do
  match ← currentKey with
  | some key =>
    modify fun s => { s with simpleKeys := s.simpleKeys.filter (·.1 != s.flowLevel) }
    insertAt key.tokenNumber ⟨.key, key.mark, key.mark⟩
    if (← get).flowLevel == 0 then
      if ← addIndent key.mark.column then
        insertAt key.tokenNumber ⟨.blockMappingStart, key.mark, key.mark⟩
    modify fun s => { s with allowSimpleKey := false }
  | none =>
    let s ← get
    if s.flowLevel == 0 then
      if !s.allowSimpleKey then fail none none "mapping values are not allowed here"
      if ← addIndent s.mark.column then
        let m ← mark
        push ⟨.blockMappingStart, m, m⟩
    modify fun s => { s with allowSimpleKey := s.flowLevel == 0 }
    removeSimpleKey
  indicator .value

/-- Reads a node property or a flow scalar, which may start a simple key. -/
def fetchKeyable (scan : Scan Token) : Scan Unit := do
  saveSimpleKey
  modify fun s => { s with allowSimpleKey := false }
  push (← scan)

/-- Reads a block scalar. -/
def fetchBlockScalar (folded : Bool) : Scan Unit := do
  modify fun s => { s with allowSimpleKey := true }
  removeSimpleKey
  push (← scanBlock folded)

/-- Skips blanks, comments and line breaks up to the next token; a break in block context
allows a simple key.  A byte-order mark at the very start is skipped too. -/
def scanToNextToken : Scan Unit := do
  if (← mark).index == 0 && (← peek) == '\uFEFF' then forward 1
  let rec go : Nat → Scan Unit
    | 0 => pure ()
    | fuel + 1 => do
      skipWhile (· == ' ') (← Scan.fuel)
      if (← peek) == '#' then skipWhile (fun c => !isBreakOrEnd c) (← Scan.fuel)
      let b ← scanLineBreak
      if b.isEmpty then pure ()
      else
        if (← get).flowLevel == 0 then modify fun s => { s with allowSimpleKey := true }
        go fuel
  go (← fuel)

/-- Whether a plain scalar may start here. -/
def plainStarts : Scan Bool := do
  let c ← peek
  let next ← peekAt 1
  let flow := (← get).flowLevel != 0
  pure (!(isBlankOrEnd c || "-?:,[]\x7b\x7d#&*!|>'\"%@".toList.contains c || c.toNat == 96) ||
    (!isBlankOrEnd next && (c == '-' || (!flow && (c == '?' || c == ':')))))

/-- **Reads the next token** (after any `<block end>` tokens the indentation calls for). -/
def fetchMore : Scan Unit := do
  scanToNextToken
  staleSimpleKeys
  unwindIndent (← mark).column
  let c ← peek
  let s ← get
  let flow := s.flowLevel != 0
  let column := s.mark.column
  let nextBlank := isBlankOrEnd (← peekAt 1)
  if c == '\x00' then fetchStreamEnd
  else if c == '%' && column == 0 then fetchDirective
  else if c == '-' && column == 0 && (← prefixOf 3) == "---" && isBlankOrEnd (← peekAt 3) then
    fetchDocumentIndicator .documentStart
  else if c == '.' && column == 0 && (← prefixOf 3) == "..." && isBlankOrEnd (← peekAt 3) then
    fetchDocumentIndicator .documentEnd
  else if c == '[' then fetchFlowCollectionStart .flowSequenceStart
  else if c == '{' then fetchFlowCollectionStart .flowMappingStart
  else if c == ']' then fetchFlowCollectionEnd .flowSequenceEnd
  else if c == '}' then fetchFlowCollectionEnd .flowMappingEnd
  else if c == ',' then fetchFlowEntry
  else if c == '-' && nextBlank then fetchBlockEntry
  else if c == '?' && (flow || nextBlank) then fetchKey
  else if c == ':' && (flow || nextBlank) then fetchValue
  else if c == '*' then fetchKeyable (scanAnchor true)
  else if c == '&' then fetchKeyable (scanAnchor false)
  else if c == '!' then fetchKeyable scanTag
  else if c == '|' && !flow then fetchBlockScalar false
  else if c == '>' && !flow then fetchBlockScalar true
  else if c == '\'' then fetchKeyable (scanQuoted false)
  else if c == '"' then fetchKeyable (scanQuoted true)
  else if ← plainStarts then fetchKeyable scanPlain
  else
    fail (some "while scanning for the next token") none
      s!"found character {quoteChar c} that cannot start any token"

/-- Whether more tokens must be read before the next one can be handed out. -/
def needMore : Scan Bool := do
  let s ← get
  if s.finished then pure false
  else if s.tokens.isEmpty then pure true
  else
    staleSimpleKeys
    let s ← get
    pure (nextSimpleKeyNumber s == some s.taken)

/-- **Reads until the next token is settled.** -/
def ensureTokens : Scan Unit := do
  let rec go : Nat → Scan Unit
    | 0 => pure ()
    | fuel + 1 => do
      if ← needMore then
        fetchMore
        go fuel
      else pure ()
  go ((← fuel) + 1)

/-- **The next token**, without taking it. -/
def peekToken : Scan Token := do
  ensureTokens
  let s ← get
  match s.tokens with
  | t :: _ => pure t
  | [] => pure ⟨.streamEnd, s.mark, s.mark⟩

/-- **Takes the next token.** -/
def nextToken : Scan Token := do
  ensureTokens
  let s ← get
  match s.tokens with
  | t :: rest =>
    set { s with tokens := rest, taken := s.taken + 1 }
    pure t
  | [] => pure ⟨.streamEnd, s.mark, s.mark⟩

/-- A scanner at the start of a text, holding the stream-start token. -/
def Scanner.start (text : String) : Scanner :=
  { buf := bufferOf text, tokens := [⟨.streamStart, ⟨0, 0, 0⟩, ⟨0, 0, 0⟩⟩] }

end ApiAudit.Yaml.Scan
