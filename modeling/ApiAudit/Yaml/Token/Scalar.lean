import ApiAudit.Yaml.Token.Cursor

/-!
# Yaml/Token/Scalar — reading scalars: plain, quoted and block

**Plain scalars** run over words separated by spaces and line breaks.  A word ends before a
blank, before a `:` followed by a blank (or, inside a flow collection, by one of `,[]{}`), and
inside a flow collection before any of `,?[]{}`.  A comment ends the scalar; so does a line that
starts left of the block indentation, or a document marker.  Line breaks fold: a single break
reads as a space, more breaks keep all but the first.  Reading a break allows a simple key
again.

**Quoted scalars** run to their closing quote, across lines.  In single quotes `''` is a quote.
In double quotes a backslash starts an escape: a character from a fixed table, `x`, `u` or `U`
with two, four or eight hex digits, or a line break that joins the lines.  Breaks fold as in
plain scalars; the end of the text or a document marker inside the quotes is an error.

**Block scalars** (`|` literal, `>` folded) take a header with an optional chomping indicator
(`+` keep, `-` strip) and indentation digit, then the lines indented at least as far as the
first non-empty one (or as the digit says).  Folding joins two lines of text that both start
with a non-space by a space.  Chomping decides the final line break and trailing empty lines.
-/

namespace ApiAudit.Yaml.Scan

/-- What `\c` stands for in a double-quoted scalar, for the single-character escapes. -/
def escapeReplacement : Char → Option Char
  | '0' => some '\x00'
  | 'a' => some '\x07'
  | 'b' => some '\x08'
  | 't' => some '\t'
  | '\t' => some '\t'
  | 'n' => some '\n'
  | 'v' => some '\x0b'
  | 'f' => some '\x0c'
  | 'r' => some '\r'
  | 'e' => some '\x1b'
  | ' ' => some ' '
  | '"' => some '"'
  | '/' => some '/'
  | '\\' => some '\\'
  | 'N' => some '\x85'
  | '_' => some '\xa0'
  | 'L' => some '\u2028'
  | 'P' => some '\u2029'
  | _ => none

/-- How many hex digits follow `\x`, `\u` and `\U`. -/
def escapeWidth : Char → Option Nat
  | 'x' => some 2
  | 'u' => some 4
  | 'U' => some 8
  | _ => none

/-! ## Plain scalars -/

/-- Reads the blank run after a word of a plain scalar: the folded text it stands for, or
`none` when a document marker ends the scalar.  An empty result also ends it. -/
def plainSpaces : Scan (Option String) := do
  let n ← span (· == ' ')
  let spaces ← take n
  let c ← peek
  if isBreak c then
    let lineBreak ← scanLineBreak
    modify fun s => { s with allowSimpleKey := true }
    if ← atDocumentMarker then return none
    let rec breaks : Nat → List String → Scan (Option (List String))
      | 0, acc => pure (some acc.reverse)
      | fuel + 1, acc => do
        let c ← peek
        if c == ' ' then
          forward 1
          breaks fuel acc
        else if isBreak c then
          let b ← scanLineBreak
          if ← atDocumentMarker then pure none else breaks fuel (b :: acc)
        else pure (some acc.reverse)
    match ← breaks (← fuel) [] with
    | none => return none
    | some bs =>
      let head := if lineBreak != "\n" then lineBreak else if bs.isEmpty then " " else ""
      return some (head ++ String.join bs)
  else return some spaces

/-- Whether the character `k` places ahead ends a word of a plain scalar. -/
def endsPlainWord (k : Nat) : Scan Bool := do
  let s ← get
  let c ← peekAt k
  let next ← peekAt (k + 1)
  let flow := s.flowLevel != 0
  pure (isBlankOrEnd c ||
    (c == ':' && (isBlankOrEnd next || (flow && ",[]\x7b\x7d".toList.contains next))) ||
    (flow && ",?[]\x7b\x7d".toList.contains c))

/-- The length of the word of a plain scalar at the position. -/
def plainWordLength : Nat → Nat → Scan Nat
  | 0, k => pure k
  | fuel + 1, k => do if ← endsPlainWord k then pure k else plainWordLength fuel (k + 1)

/-- **Reads a plain scalar.** -/
def scanPlain : Scan Token := do
  let start ← mark
  let indent := (← get).indent + 1
  let rec words : Nat → String → String → Mark → Scan (String × Mark)
    | 0, acc, _, stop => pure (acc, stop)
    | fuel + 1, acc, spaces, stop => do
      if (← peek) == '#' then return (acc, stop)
      let len ← plainWordLength (← Scan.fuel) 0
      if len == 0 then return (acc, stop)
      modify fun s => { s with allowSimpleKey := false }
      let word ← take len
      let acc := acc ++ spaces ++ word
      let stop ← mark
      match ← plainSpaces with
      | none => return (acc, stop)
      | some sp =>
        let s ← get
        if sp.isEmpty || (← peek) == '#' || (s.flowLevel == 0 && (s.mark.column : Int) < indent) then
          return (acc, stop)
        words fuel acc sp stop
  let (text, stop) ← words (← fuel) "" "" start
  pure ⟨.scalar text .plain, start, stop⟩

/-! ## Quoted scalars -/

/-- Reads the line breaks inside a quoted scalar, after the first: each kept as read. -/
def quotedBreaks (start : Mark) : Nat → List String → Scan (List String)
  | 0, acc => pure acc.reverse
  | fuel + 1, acc => do
    if ← atDocumentMarker then
      fail (some "while scanning a quoted scalar") (some start) "found unexpected document separator"
    skipWhile (fun c => c == ' ' || c == '\t') (← Scan.fuel)
    if isBreak (← peek) then
      let b ← scanLineBreak
      quotedBreaks start fuel (b :: acc)
    else pure acc.reverse

/-- Reads the escape after a backslash in a double-quoted scalar. -/
def escape (start : Mark) : Scan String := do
  forward 1
  let c ← peek
  match escapeReplacement c with
  | some r =>
    forward 1
    pure (String.singleton r)
  | none =>
    match escapeWidth c with
    | some width =>
      forward 1
      for k in List.range width do
        let d ← peekAt k
        if !isHexDigit d then
          fail (some "while scanning a double-quoted scalar") (some start)
            s!"expected escape sequence of {width} hexadecimal numbers, but found {quoteChar d}"
      let digits ← take width
      let code := hexNumber digits
      if 0x10FFFF < code then throw (.refused .beyondUnicode)
      else if Text.isSurrogateUnit code then pure (String.singleton (Text.ofUnit code))
      else pure (String.singleton (Char.ofNat code))
    | none =>
      if isBreak c then
        let _ ← scanLineBreak
        pure (String.join (← quotedBreaks start (← Scan.fuel) []))
      else
        fail (some "while scanning a double-quoted scalar") (some start)
          s!"found unknown escape character {quoteChar c}"

/-- The characters that interrupt a run of plain text inside quotes. -/
def isQuotedStop (c : Char) : Bool :=
  c == '\'' || c == '"' || c == '\\' || isBlankOrEnd c

/-- Reads text up to a blank, a break, the end or the closing quote. -/
def quotedText (double : Bool) (start : Mark) : Nat → String → Scan String
  | 0, acc => pure acc
  | fuel + 1, acc => do
    let n ← span (fun c => !isQuotedStop c)
    let acc := acc ++ (← take n)
    let c ← peek
    if !double && c == '\'' && (← peekAt 1) == '\'' then
      forward 2
      quotedText double start fuel (acc ++ "'")
    else if (double && c == '\'') || (!double && (c == '"' || c == '\\')) then
      forward 1
      quotedText double start fuel (acc.push c)
    else if double && c == '\\' then
      let e ← escape start
      quotedText double start fuel (acc ++ e)
    else pure acc

/-- Reads blanks and breaks inside a quoted scalar, folding them. -/
def quotedSpaces (start : Mark) : Scan String := do
  let n ← span (fun c => c == ' ' || c == '\t')
  let spaces ← take n
  let c ← peek
  if c == '\x00' then
    fail (some "while scanning a quoted scalar") (some start) "found unexpected end of stream"
  else if isBreak c then
    let lineBreak ← scanLineBreak
    let bs ← quotedBreaks start (← fuel) []
    let head := if lineBreak != "\n" then lineBreak else if bs.isEmpty then " " else ""
    pure (head ++ String.join bs)
  else pure spaces

/-- **Reads a quoted scalar**, single-quoted or double-quoted. -/
def scanQuoted (double : Bool) : Scan Token := do
  let start ← mark
  let quote ← peek
  forward 1
  let first ← quotedText double start (← fuel) ""
  let rec rest : Nat → String → Scan String
    | 0, acc => pure acc
    | fuel + 1, acc => do
      if (← peek) == quote then pure acc
      else
        let sp ← quotedSpaces start
        let t ← quotedText double start (← Scan.fuel) ""
        rest fuel (acc ++ sp ++ t)
  let text ← rest (← fuel) first
  forward 1
  let stop ← mark
  pure ⟨.scalar text (if double then .double else .single), start, stop⟩

/-! ## Block scalars -/

/-- Reads the header indicators of a block scalar: chomping (`some true` keep, `some false`
strip) and the indentation digit. -/
def blockIndicators (start : Mark) : Scan (Option Bool × Option Nat) := do
  let ctx := some "while scanning a block scalar"
  let digit (c : Char) : Scan (Option Nat) := do
    if '0' ≤ c && c ≤ '9' then
      if c == '0' then
        fail ctx (some start) "expected indentation indicator in the range 1-9, but found 0"
      forward 1
      pure (some (c.toNat - '0'.toNat))
    else pure none
  let c ← peek
  let (chomping, increment) ← if c == '+' || c == '-' then do
      forward 1
      let inc ← digit (← peek)
      pure (some (c == '+'), inc)
    else do
      let inc ← digit c
      if inc.isSome then
        let c' ← peek
        if c' == '+' || c' == '-' then
          forward 1
          pure (some (c' == '+'), inc)
        else pure (none, inc)
      else pure (none, none)
  let c ← peek
  if !isSpaceOrEnd c then
    fail ctx (some start) s!"expected chomping or indentation indicators, but found {quoteChar c}"
  pure (chomping, increment)

/-- Reads the rest of a block scalar's header line: spaces and a comment. -/
def blockIgnoredLine (start : Mark) : Scan Unit := do
  skipWhile (· == ' ') (← fuel)
  if (← peek) == '#' then skipWhile (fun c => !isBreakOrEnd c) (← fuel)
  let c ← peek
  if !isBreakOrEnd c then
    fail (some "while scanning a block scalar") (some start)
      s!"expected a comment or a line break, but found {quoteChar c}"
  let _ ← scanLineBreak

/-- Reads the empty lines before the first line of a block scalar when no indentation is
given: the breaks, the deepest column reached, and the mark after the last break. -/
def blockIndentation : Scan (List String × Nat × Mark) := do
  let rec go : Nat → List String → Nat → Mark → Scan (List String × Nat × Mark)
    | 0, acc, maxIndent, stop => pure (acc.reverse, maxIndent, stop)
    | fuel + 1, acc, maxIndent, stop => do
      let c ← peek
      if c == ' ' then
        forward 1
        let col := (← mark).column
        go fuel acc (max maxIndent col) stop
      else if isBreak c then
        let b ← scanLineBreak
        go fuel (b :: acc) maxIndent (← mark)
      else pure (acc.reverse, maxIndent, stop)
  go (← fuel) [] 0 (← mark)

/-- Reads empty lines inside a block scalar, moving over indentation up to `indent`: the breaks
and the mark after the last. -/
def blockBreaks (indent : Nat) : Scan (List String × Mark) := do
  let skipIndent : Scan Unit := do
    skipWhile (· == ' ') (indent - (← mark).column)
  skipIndent
  let rec go : Nat → List String → Mark → Scan (List String × Mark)
    | 0, acc, stop => pure (acc.reverse, stop)
    | fuel + 1, acc, stop => do
      if isBreak (← peek) then
        let b ← scanLineBreak
        let stop ← mark
        skipIndent
        go fuel (b :: acc) stop
      else pure (acc.reverse, stop)
  go (← fuel) [] (← mark)

/-- **Reads a block scalar**, literal or folded. -/
def scanBlock (folded : Bool) : Scan Token := do
  let start ← mark
  forward 1
  let (chomping, increment) ← blockIndicators start
  blockIgnoredLine start
  let minIndent : Nat := max 1 ((← get).indent + 1).toNat
  let (breaks, indent, stop) ← match increment with
    | none => do
      let (bs, maxIndent, stop) ← blockIndentation
      pure (bs, max minIndent maxIndent, stop)
    | some inc => do
      let ind := minIndent + inc - 1
      let (bs, stop) ← blockBreaks ind
      pure (bs, ind, stop)
  let atLine : Scan Bool := do pure ((← mark).column == indent && (← peek) != '\x00')
  let rec lines : Nat → String → List String → String → Mark → Scan (String × List String × String × Mark)
    | 0, acc, breaks, lineBreak, stop => pure (acc, breaks, lineBreak, stop)
    | fuel + 1, acc, breaks, _, _ => do
      let acc := acc ++ String.join breaks
      let c ← peek
      let leadingNonSpace := c != ' ' && c != '\t'
      let n ← span (fun c => !isBreakOrEnd c)
      let acc := acc ++ (← take n)
      let lineBreak ← scanLineBreak
      let (breaks, stop) ← blockBreaks indent
      if ← atLine then
        let c ← peek
        let acc :=
          if folded && lineBreak == "\n" && leadingNonSpace && c != ' ' && c != '\t' then
            if breaks.isEmpty then acc ++ " " else acc
          else acc ++ lineBreak
        lines fuel acc breaks lineBreak stop
      else pure (acc, breaks, lineBreak, stop)
  let (text, breaks, lineBreak, stop) ←
    if ← atLine then lines (← fuel) "" breaks "" stop else pure ("", breaks, "", stop)
  let text := if chomping != some false then text ++ lineBreak else text
  let text := if chomping == some true then text ++ String.join breaks else text
  pure ⟨.scalar text (if folded then .folded else .literal), start, stop⟩

end ApiAudit.Yaml.Scan
