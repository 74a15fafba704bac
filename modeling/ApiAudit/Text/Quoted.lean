import ApiAudit.Text.Printable
import ApiAudit.Text.Surrogate

/-!
# Text/Quoted — a text written as a quoted literal

Messages show texts, and lists of texts, as **quoted literals**: `'a.B'`, `"it's"`.  The rule:

* the quote is `'` unless the text holds a `'` and no `"`, then it is `"`;
* a backslash and the chosen quote are escaped with a backslash;
* tab, line feed and carriage return are written `\t`, `\n`, `\r`;
* other characters below the space, and delete, are written `\xhh`;
* a character above delete that is not printable (`Text/Printable`) is written `\xhh`,
  `\uhhhh` or `\Uhhhhhhhh` by its size, a lone surrogate (`Text/Surrogate`) `\udxxx`; every
  other character stands for itself.

A byte sequence is written `b'…'` (`bytesLiteral`) with the same quote rule, every byte below
the space or from delete up written `\xhh`.

Hex digits are lower case.
-/

namespace ApiAudit.Text

/-- The lower-case hex digits of `n`, padded with zeros to `width`. -/
def hexDigits (width n : Nat) : List Char :=
  let ds := Nat.toDigits 16 n
  List.replicate (width - ds.length) '0' ++ ds

/-- How one character is written inside a literal quoted with `q`. -/
def escapeChar (q c : Char) : List Char :=
  let n := c.toNat
  if let some u := unit? c then '\\' :: 'u' :: hexDigits 4 u
  else if c = q || c = '\\' then ['\\', c]
  else if c = '\t' then ['\\', 't']
  else if c = '\n' then ['\\', 'n']
  else if c = '\r' then ['\\', 'r']
  else if n < 0x20 || n == 0x7F then '\\' :: 'x' :: hexDigits 2 n
  else if n < 0x7F || isPrintable c then [c]
  else if n ≤ 0xFF then '\\' :: 'x' :: hexDigits 2 n
  else if n ≤ 0xFFFF then '\\' :: 'u' :: hexDigits 4 n
  else '\\' :: 'U' :: hexDigits 8 n

/-- The quote a literal of `s` uses. -/
def quoteFor (s : String) : Char :=
  if s.toList.contains '\'' && !s.toList.contains '"' then '"' else '\''

/-- **The quoted literal of a text.** -/
def quote (s : String) : String :=
  let q := quoteFor s
  String.ofList (q :: (s.toList.flatMap (escapeChar q) ++ [q]))

/-- How one byte is written inside a bytes literal quoted with `q`. -/
def escapeByte (q : Char) (b : UInt8) : List Char :=
  let n := b.toNat
  let c := Char.ofNat n
  if c = q || c = '\\' then ['\\', c]
  else if c = '\t' then ['\\', 't']
  else if c = '\n' then ['\\', 'n']
  else if c = '\r' then ['\\', 'r']
  else if n < 0x20 || 0x7F ≤ n then '\\' :: 'x' :: hexDigits 2 n
  else [c]

/-- **The literal of a byte sequence.** -/
def bytesLiteral (bs : List UInt8) : String :=
  let q := if bs.contains 39 && !bs.contains 34 then '"' else '\''
  "b" ++ String.ofList (q :: (bs.flatMap (escapeByte q) ++ [q]))

example : bytesLiteral [104, 105, 0, 255] = "b'hi\\x00\\xff'" := by decide
example : quote (String.ofList ['a', ofUnit 0xD800]) = "'a\\ud800'" := by decide
example : quote "a.B" = "'a.B'" := by decide
example : quote "it's" = "\"it's\"" := by decide
example : quote "a\x00\n" = "'a\\x00\\n'" := by decide

end ApiAudit.Text
