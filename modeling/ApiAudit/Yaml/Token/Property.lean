import ApiAudit.Yaml.Token.Cursor
import ApiAudit.Text.Utf8

/-!
# Yaml/Token/Property — reading anchors, aliases, tags and directives

* An **anchor** `&name` or **alias** `*name` is a run of ASCII letters, digits, `-` and `_`,
  followed by a blank or one of `?:,]}%@` and a backtick.
* A **tag** is verbatim `!<uri>`, the non-specific `!` alone, `!suffix` with the primary handle,
  or `!handle!suffix`.  A suffix is a URI: letters, digits and the URI punctuation, with `%hh`
  escapes decoded as UTF-8.
* A **directive** `%NAME …` starts at column 0: `%YAML major.minor` and `%TAG handle prefix` are
  read, any other is skipped to the end of its line.  A comment may follow.
-/

namespace ApiAudit.Yaml.Scan

/-- The characters that may stand in a tag's URI besides letters and digits. -/
def uriPunctuation : List Char := "-;/?:@&=+$,_.!~*'()[]%".toList

/-- Whether a character may stand in a URI. -/
def isUriChar (c : Char) : Bool := isAsciiWord c || uriPunctuation.contains c

/-- **Reads an anchor or an alias.** -/
def scanAnchor (isAlias : Bool) : Scan Token := do
  let start ← mark
  let what := if isAlias then "alias" else "anchor"
  forward 1
  let n ← span isAsciiWord
  let bad : Scan Unit := do
    failFound (some s!"while scanning an {what}") start s!"expected alphabetic or numeric character"
  if n == 0 then bad
  let name ← take n
  let c ← peek
  if !(isBlankOrEnd c || "?:,]\x7d%@".toList.contains c || c.toNat == 96) then bad
  let stop ← mark
  pure ⟨if isAlias then .alias name else .anchor name, start, stop⟩

/-- Reads `%hh` escapes of a URI and decodes them as UTF-8. -/
def uriEscapes (what : String) (start : Mark) : Scan String := do
  let at0 ← mark
  let rec go : Nat → List UInt8 → Scan (List UInt8)
    | 0, acc => pure acc.reverse
    | fuel + 1, acc => do
      if (← peek) != '%' then return acc.reverse
      forward 1
      for k in [0, 1] do
        let d ← peekAt k
        if !isHexDigit d then
          fail (some s!"while scanning a {what}") (some start)
            s!"expected URI escape sequence of 2 hexadecimal numbers, but found {quoteChar d}"
      let digits ← take 2
      go fuel ((hexNumber digits).toUInt8 :: acc)
  let bytes ← go (← fuel) []
  match Text.decodeUtf8 bytes with
  | .ok s => pure s
  | .error e => throw (.marked .scanner (some s!"while scanning a {what}") (some start) e.text at0)

/-- **Reads the URI of a tag or tag directive.** -/
def scanTagUri (what : String) (start : Mark) : Scan String := do
  let rec go : Nat → String → Scan String
    | 0, acc => pure acc
    | fuel + 1, acc => do
      let n ← span (fun c => isUriChar c && c != '%')
      let acc := acc ++ (← take n)
      if (← peek) == '%' then
        let e ← uriEscapes what start
        go fuel (acc ++ e)
      else pure acc
  let uri ← go (← fuel) ""
  if uri.isEmpty then
    failFound (some s!"while parsing a {what}") start s!"expected URI"
  pure uri

/-- **Reads a tag handle**: `!`, `!!` or `!word!`. -/
def scanTagHandle (what : String) (start : Mark) : Scan String := do
  let c ← peek
  if c != '!' then
    fail (some s!"while scanning a {what}") (some start) s!"expected '!', but found {quoteChar c}"
  let c1 ← peekAt 1
  if c1 == ' ' then take 1
  else
    let n ← spanFrom isAsciiWord (← fuel) 1
    let c ← peekAt n
    if c != '!' then
      forward n
      fail (some s!"while scanning a {what}") (some start) s!"expected '!', but found {quoteChar c}"
    take (n + 1)

/-- **Reads a tag.** -/
def scanTag : Scan Token := do
  let start ← mark
  let c ← peekAt 1
  let (handle, suffix) ← if c == '<' then do
      forward 2
      let suffix ← scanTagUri "tag" start
      if (← peek) != '>' then
        failFound (some "while parsing a tag") start s!"expected '>'"
      forward 1
      pure (none, suffix)
    else if isBlankOrEnd c then do
      forward 1
      pure (none, "!")
    else do
      let n ← spanFrom (fun c => !isSpaceOrEnd c && c != '!') (← fuel) 1
      let handle ← if (← peekAt n) == '!' then scanTagHandle "tag" start
        else do
          forward 1
          pure "!"
      let suffix ← scanTagUri "tag" start
      pure (some handle, suffix)
  let c ← peek
  if !isSpaceOrEnd c then
    fail (some "while scanning a tag") (some start) s!"expected ' ', but found {quoteChar c}"
  let stop ← mark
  pure ⟨.tag handle suffix, start, stop⟩

/-- Reads a run of digits of a version directive. -/
def versionNumber (start : Mark) : Scan Nat := do
  let c ← peek
  if !('0' ≤ c && c ≤ '9') then
    fail (some "while scanning a directive") (some start) s!"expected a digit, but found {quoteChar c}"
  let n ← span (fun c => '0' ≤ c && c ≤ '9')
  let ds ← take n
  pure (ds.toList.foldl (fun v d => 10 * v + (d.toNat - '0'.toNat)) 0)

/-- **Reads a directive** from its `%` to the end of its line. -/
def scanDirective : Scan Token := do
  let start ← mark
  let ctx := some "while scanning a directive"
  forward 1
  let n ← span isAsciiWord
  if n == 0 then
    failFound ctx start s!"expected alphabetic or numeric character"
  let name ← take n
  let c ← peek
  if !isSpaceOrEnd c then
    fail ctx (some start) s!"expected alphabetic or numeric character, but found {quoteChar c}"
  let value ← if name == "YAML" then do
      skipWhile (· == ' ') (← fuel)
      let major ← versionNumber start
      if (← peek) != '.' then
        failFound ctx start s!"expected a digit or '.'"
      forward 1
      let minor ← versionNumber start
      if !isSpaceOrEnd (← peek) then
        failFound ctx start s!"expected a digit or ' '"
      pure (DirectiveValue.version major minor)
    else if name == "TAG" then do
      skipWhile (· == ' ') (← fuel)
      let handle ← scanTagHandle "directive" start
      if (← peek) != ' ' then
        failFound ctx start s!"expected ' '"
      skipWhile (· == ' ') (← fuel)
      let pfx ← scanTagUri "directive" start
      if !isSpaceOrEnd (← peek) then
        failFound ctx start s!"expected ' '"
      pure (DirectiveValue.tagPrefix handle pfx)
    else pure DirectiveValue.other
  let stop ← mark
  if value == .other then skipWhile (fun c => !isBreakOrEnd c) (← fuel)
  skipWhile (· == ' ') (← fuel)
  if (← peek) == '#' then skipWhile (fun c => !isBreakOrEnd c) (← fuel)
  let c ← peek
  if !isBreakOrEnd c then
    fail ctx (some start) s!"expected a comment or a line break, but found {quoteChar c}"
  let _ ← scanLineBreak
  pure ⟨.directive name value, start, stop⟩

end ApiAudit.Yaml.Scan
