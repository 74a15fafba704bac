import ApiAudit.Text.WordChar
import ApiAudit.Text.Blank

/-!
# Signature/Grammar — the lines of a signature text

A signature line names a class, optionally a member, optionally a message:

```text
java.lang.String                       a class
java.lang.*   java.**                  class patterns
java.lang.String#<init>(byte[])        a member with parameter types
java.util.List#get(int) @ use X        with a message after `@`
```

Precisely (`isSignatureLine`):

* a first segment: an ASCII letter, `_` or `$`, then word characters (any script) and `$`;
* further segments, each a `.`, an ASCII letter, `_`, `$` or `*`, then word characters, `$`
  and `*`;
* optionally `#`, one or more word characters, `$`, `<`, `>`, optionally followed by a
  parenthesised list of word characters, `$`, `.`, `,`, `[`, `]` and spaces;
* optionally blanks, `@` and any text; then the end of the line.

A **signature text** is cut into lines (`Text.splitLines`), each trimmed; blank lines and lines
starting with `#` or `@` are skipped, every other line must be a signature line
(`checkText`).
-/

namespace ApiAudit.Signature

/-- ASCII letters. -/
def isAsciiLetter (c : Char) : Bool := ('a' ≤ c && c ≤ 'z') || ('A' ≤ c && c ≤ 'Z')

/-- Characters that may start a class name. -/
def isHeadChar (c : Char) : Bool := isAsciiLetter c || c == '_' || c == '$'

/-- Characters inside a class name. -/
def isNameChar (c : Char) : Bool := Text.isWordChar c || c == '$'

/-- Characters that may start a further segment. -/
def isSegmentHead (c : Char) : Bool := isHeadChar c || c == '*'

/-- Characters inside a further segment. -/
def isSegmentChar (c : Char) : Bool := isNameChar c || c == '*'

/-- Characters of a member name. -/
def isMemberChar (c : Char) : Bool := isNameChar c || c == '<' || c == '>'

/-- Characters of a parameter list. -/
def isParamChar (c : Char) : Bool :=
  isNameChar c || c == '.' || c == ',' || c == '[' || c == ']' || c == ' '

/-- Reads the rest of a further segment and the segments after it. -/
def segmentBody : List Char → List Char
  | '.' :: d :: rest => if isSegmentHead d then segmentBody rest else '.' :: d :: rest
  | c :: rest => if isSegmentChar c then segmentBody rest else c :: rest
  | [] => []

/-- Skips the further segments of a class name. -/
def skipSegments : List Char → List Char
  | '.' :: d :: rest => if isSegmentHead d then segmentBody rest else '.' :: d :: rest
  | cs => cs

/-- Whether what is left is empty, or blanks then `@` and a message. -/
def isMessageOrEnd (cs : List Char) : Bool :=
  cs.isEmpty || (cs.dropWhile Text.isBlank).head? == some '@'

/-- Whether what follows the class name is an optional member, then the message or the end. -/
def isMemberTail (cs : List Char) : Bool :=
  match cs with
  | '#' :: rest =>
    let name := rest.takeWhile isMemberChar
    let afterName := rest.drop name.length
    if name.isEmpty then false
    else
      match afterName with
      | '(' :: ps =>
        match ps.drop (ps.takeWhile isParamChar).length with
        | ')' :: afterParams => isMessageOrEnd afterParams
        | _ => false
      | _ => isMessageOrEnd afterName
  | _ => isMessageOrEnd cs

/-- **Whether a trimmed line is a signature.** -/
def isSignatureLine (line : List Char) : Bool :=
  match line with
  | c :: rest => isHeadChar c && isMemberTail (skipSegments (rest.dropWhile isNameChar))
  | [] => false

/-- What reading a signature text found: the signatures counted, or the first bad line with
its number and its trimmed text. -/
inductive TextCheck where
  | counted (n : Nat)
  | badLine (counted : Nat) (number : Nat) (line : String)
  deriving Repr, DecidableEq

/-- Reads numbered lines, counting signatures from `n`. -/
def checkLines : Nat → Nat → List String → TextCheck
  | n, _, [] => .counted n
  | n, i, raw :: rest =>
    let line := Text.trim raw
    let cs := line.toList
    if cs.isEmpty || cs.head? == some '#' || cs.head? == some '@' then checkLines n (i + 1) rest
    else if isSignatureLine cs then checkLines (n + 1) (i + 1) rest
    else .badLine n i line

/-- **Reads a signature text**: the number of signatures, or the first bad line. -/
def checkText (text : String) : TextCheck := checkLines 0 1 (Text.splitLines text)

example : isSignatureLine "java.lang.String#<init>(byte[])".toList = true := by decide +kernel
example : isSignatureLine "java.util.List#get(int) @ use X".toList = true := by decide +kernel
example : isSignatureLine "a.b#c(".toList = false := by decide +kernel
example : isSignatureLine "a.1b".toList = false := by decide +kernel
example : checkText "a.B\r\nc.D\rx y\n" = .badLine 2 3 "x y" := by decide +kernel

/-- The bundled signature sets. -/
def bundledNames : List String :=
  ["jdk-unsafe", "jdk-deprecated", "jdk-internal", "jdk-non-portable", "jdk-system-out",
   "jdk-reflection", "commons-io-unsafe"]

/-- Drops a version suffix `-N` or `-N.M` (decimal digits of any script) at the end of a
reversed name; a line feed at the very end stays where it is. -/
def dropVersionRev (rev : List Char) : List Char :=
  let core (r : List Char) : List Char :=
    let d1 := r.takeWhile Text.isDecimal
    let r1 := r.drop d1.length
    if d1.isEmpty then r
    else
      match r1 with
      | '-' :: r2 => r2
      | '.' :: r2 =>
        let d2 := r2.takeWhile Text.isDecimal
        match r2.drop d2.length with
        | '-' :: r3 => if d2.isEmpty then r else r3
        | _ => r
      | _ => r
  match rev with
  | '\n' :: r => '\n' :: core r
  | r => core r

/-- **The bundled set a name refers to**: the name without its version suffix. -/
def bundledBase (name : String) : String :=
  String.ofList (dropVersionRev name.toList.reverse).reverse

example : bundledBase "jdk-unsafe-1.8" = "jdk-unsafe" := by decide
example : bundledBase "jdk-unsafe-1-8" = "jdk-unsafe-1" := by decide
example : bundledBase "jdk-unsafe-.8" = "jdk-unsafe-.8" := by decide

end ApiAudit.Signature
