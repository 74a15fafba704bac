import ApiAudit.Yaml.Token

/-!
# Yaml/Token/Cursor — the state of scanning, and moving through the text

A `Scanner` holds the text (with a final `NUL`), the current mark, and what scanning has
gathered: the queue of tokens not yet handed out, how many were handed out, the stack of block
indentations, the flow nesting, and the places where a simple key might start.  `Scan` is a
computation on that state that may fail with an `Error`.

Moving (`forward`) counts lines and columns: a line feed, `NEL`, the two Unicode separators and a
carriage return not followed by a line feed start a new line; a byte-order mark takes no column.
A **line break** (`scanLineBreak`) is read as one line feed (for CR LF, CR, LF, NEL) or as itself
(the Unicode separators).

Every loop over characters takes a `fuel` bound, one more than the length of the text: a loop
that moves at least one character per round ends before it runs out.
-/

namespace ApiAudit.Yaml

/-- A place where a simple key might start: the number its key token would take, whether a key
is required there, and its mark. -/
structure SimpleKey where
  tokenNumber : Nat
  required : Bool
  mark : Mark
  deriving Repr

/-- The state of scanning. -/
structure Scanner where
  buf : Array Char
  mark : Mark := ⟨0, 0, 0⟩
  finished : Bool := false
  /-- The flow nesting; an unmatched closing bracket takes it below zero. -/
  flowLevel : Int := 0
  tokens : List Token := []
  taken : Nat := 0
  indent : Int := -1
  indents : List Int := []
  allowSimpleKey : Bool := true
  /-- The possible simple keys by flow level, oldest first. -/
  simpleKeys : List (Int × SimpleKey) := []

/-- A scanning step: it reads and changes the scanner, or fails. -/
abbrev Scan := StateT Scanner (Except Error)

/-- Line breaks: CR, LF, `NEL` and the Unicode line and paragraph separators. -/
def isBreak (c : Char) : Bool :=
  c == '\r' || c == '\n' || c == '\x85' || c == '\u2028' || c == '\u2029'

/-- A line break or the end of the text. -/
def isBreakOrEnd (c : Char) : Bool := c == '\x00' || isBreak c

/-- A space, a line break or the end of the text. -/
def isSpaceOrEnd (c : Char) : Bool := c == ' ' || isBreakOrEnd c

/-- A space, a tab, a line break or the end of the text. -/
def isBlankOrEnd (c : Char) : Bool := c == '\t' || isSpaceOrEnd c

/-- ASCII letters and digits, `-` and `_`: the characters of anchors and tag handles. -/
def isAsciiWord (c : Char) : Bool :=
  ('0' ≤ c && c ≤ '9') || ('A' ≤ c && c ≤ 'Z') || ('a' ≤ c && c ≤ 'z') || c == '-' || c == '_'

/-- Hexadecimal digits. -/
def isHexDigit (c : Char) : Bool :=
  ('0' ≤ c && c ≤ '9') || ('A' ≤ c && c ≤ 'F') || ('a' ≤ c && c ≤ 'f')

/-- The value of a hexadecimal digit. -/
def hexValue (c : Char) : Nat :=
  if '0' ≤ c && c ≤ '9' then c.toNat - '0'.toNat
  else if 'a' ≤ c && c ≤ 'f' then c.toNat - 'a'.toNat + 10
  else c.toNat - 'A'.toNat + 10

/-- The value of a run of hexadecimal digits. -/
def hexNumber (s : String) : Nat := s.toList.foldl (fun n c => 16 * n + hexValue c) 0

/-- The quoted literal of a character, as messages show it. -/
def quoteChar (c : Char) : String := Text.quote (String.singleton c)

/-- The position after the character `c`, when `next` follows it. -/
def Mark.advance (m : Mark) (c next : Char) : Mark :=
  if c == '\n' || c == '\x85' || c == '\u2028' || c == '\u2029' || (c == '\r' && next != '\n') then
    ⟨m.index + 1, m.line + 1, 0⟩
  else if c == '\uFEFF' then ⟨m.index + 1, m.line, m.column⟩
  else ⟨m.index + 1, m.line, m.column + 1⟩

namespace Scan

/-- The character `k` places ahead; the end of the text reads as `NUL`. -/
def peekAt (k : Nat) : Scan Char := do
  let s ← get
  pure (s.buf.getD (s.mark.index + k) '\x00')

/-- The current character. -/
def peek : Scan Char := peekAt 0

/-- The next `k` characters, fewer at the end of the text. -/
def prefixOf (k : Nat) : Scan String := do
  let s ← get
  pure (String.ofList (s.buf.extract s.mark.index (s.mark.index + k)).toList)

/-- The current mark. -/
def mark : Scan Mark := do pure (← get).mark

/-- One more than the length of the text: enough rounds for any loop over its characters. -/
def fuel : Scan Nat := do pure ((← get).buf.size + 1)

/-- **Moves `n` characters on**, counting lines and columns. -/
def forward : Nat → Scan Unit
  | 0 => pure ()
  | n + 1 => do
    modify fun s =>
      let c := s.buf.getD s.mark.index '\x00'
      let next := s.buf.getD (s.mark.index + 1) '\x00'
      { s with mark := s.mark.advance c next }
    forward n

/-- Moves on while the current character satisfies `p`, at most `fuel` characters. -/
def skipWhile (p : Char → Bool) : Nat → Scan Unit
  | 0 => pure ()
  | n + 1 => do
    if p (← peek) then
      forward 1
      skipWhile p n
    else pure ()

/-- How many characters from `k` places ahead on satisfy `p`, plus `k`; at most `fuel` more. -/
def spanFrom (p : Char → Bool) : Nat → Nat → Scan Nat
  | 0, k => pure k
  | n + 1, k => do if p (← peekAt k) then spanFrom p n (k + 1) else pure k

/-- How many characters from the position on satisfy `p`. -/
def span (p : Char → Bool) : Scan Nat := do spanFrom p (← fuel) 0

/-- Takes the next `k` characters as a text and moves over them. -/
def take (k : Nat) : Scan String := do
  let s ← prefixOf k
  forward k
  pure s

/-- **Reads a line break**: CR LF, CR, LF and `NEL` read as a line feed, the Unicode separators
as themselves; anything else reads as nothing and stays. -/
def scanLineBreak : Scan String := do
  let c ← peek
  if c == '\r' || c == '\n' || c == '\x85' then
    if c == '\r' && (← peekAt 1) == '\n' then forward 2 else forward 1
    pure "\n"
  else if c == '\u2028' || c == '\u2029' then
    forward 1
    pure (String.singleton c)
  else pure ""

/-- Fails at the current mark with a scanning error. -/
def fail {α : Type} (context : Option String) (contextMark : Option Mark) (problem : String) :
    Scan α := do
  throw (.marked .scanner context contextMark problem (← mark))

/-- Fails at the current mark: `expected` was wanted, and the current character was found. -/
def failFound {α : Type} (context : Option String) (start : Mark) (expected : String) : Scan α := do
  let c ← peek
  fail context (some start) (expected ++ ", but found " ++ quoteChar c)

/-- Adds a token at the end of the queue. -/
def push (t : Token) : Scan Unit := modify fun s => { s with tokens := s.tokens ++ [t] }

/-- Whether the next three characters are a document marker (`---` or `...`) standing alone. -/
def atDocumentMarker : Scan Bool := do
  let p ← prefixOf 3
  pure ((p == "---" || p == "...") && isBlankOrEnd (← peekAt 3))

end Scan

end ApiAudit.Yaml
