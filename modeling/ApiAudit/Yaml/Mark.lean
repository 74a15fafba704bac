import ApiAudit.Text.Quoted

/-!
# Yaml/Mark — positions in a YAML text, and the errors that point at them

A `Mark` is a position in the text being read: the character index, the line and the column,
all counted from zero.  An error of the reader is one of three kinds:

* an **unacceptable character** — a character outside the printable set of the format, found
  before any reading starts; it is reported by its code and its index;
* a **marked error** of one stage (scanning, parsing, composing, constructing): an optional
  *context* with its mark (what was being read, and where it began) and a *problem* with its
  mark (what was found, and where);
* a **refused scalar** — well-formed YAML whose value cannot be built: a timestamp naming no
  real moment, a text tagged as a timestamp, number or truth value that is none, or an escape
  beyond the last character.  These are no errors of the language (`Error.isSyntax` tells them
  apart).

`Error.message` words an error against the text.  A mark is written as its line and column,
counted from one, and a **snippet**: the line it stands on, indented by four, with a caret under
the position.  A line is cut to 32 characters on either side of the position, with ` ... `
where it is cut.  The context's mark is left out when it is the problem's mark.
-/

namespace ApiAudit.Yaml

/-- A position in the text: character index, line and column, all from zero. -/
structure Mark where
  index : Nat
  line : Nat
  column : Nat
  deriving Repr, DecidableEq, Inhabited

/-- The characters that end a line of a snippet: the end of the text and the line breaks. -/
def isSnippetEnd (c : Char) : Bool :=
  c == '\x00' || c == '\r' || c == '\n' || c == '\x85' || c == '\u2028' || c == '\u2029'

/-- How many characters stand before position `p` on its line, counting at most `limit`. -/
def countBack (buf : Array Char) : Nat → Nat → Nat
  | 0, _ => 0
  | limit + 1, p =>
    match p with
    | 0 => 0
    | q + 1 => if isSnippetEnd (buf.getD q '\x00') then 0 else 1 + countBack buf limit q

/-- How many characters stand from position `p` to the end of its line, counting at most
`limit`. -/
def countForward (buf : Array Char) : Nat → Nat → Nat
  | 0, _ => 0
  | limit + 1, p => if isSnippetEnd (buf.getD p '\x00') then 0 else 1 + countForward buf limit (p + 1)

/-- **The snippet of a mark**: its line, cut around the position, and a caret under it. -/
def Mark.snippet (buf : Array Char) (m : Mark) : String :=
  let p := m.index
  let back := countBack buf 37 p
  let (start, head) := if back ≥ 37 then (p - 32, " ... ") else (p - back, "")
  let fwd := countForward buf 37 p
  let (stop, tail) := if fwd ≥ 37 then (p + 32, " ... ") else (p + fwd, "")
  let body := String.ofList (buf.extract start stop).toList
  "    " ++ head ++ body ++ tail ++ "\n" ++
    String.ofList (List.replicate (4 + (p - start) + head.length) ' ') ++ "^"

/-- **The text of a mark**: where it is, and its snippet. -/
def Mark.render (buf : Array Char) (m : Mark) : String :=
  s!"  in \"<unicode string>\", line {m.line + 1}, column {m.column + 1}:\n" ++ m.snippet buf

/-- The stages of reading that report marked errors. -/
inductive Stage where
  | scanner
  | parser
  | composer
  | constructor
  deriving Repr, DecidableEq

/-- The name of a stage's errors. -/
def Stage.className : Stage → String
  | .scanner => "ScannerError"
  | .parser => "ParserError"
  | .composer => "ComposerError"
  | .constructor => "ConstructorError"

/-- Why a scalar that is well-formed YAML gives no value. -/
inductive Refusal where
  /-- A timestamp naming no real moment; the message names the field out of range. -/
  | badMoment (message : String)
  /-- A text tagged as a timestamp that is not of the timestamp form. -/
  | notATimestamp
  /-- A text tagged as a number that reads as none; the message says why. -/
  | badNumber (message : String)
  /-- A text tagged as a truth value that names none, in lower case. -/
  | unknownTruth (text : String)
  /-- An empty text tagged as a number. -/
  | emptyNumber
  /-- An escape naming a code beyond the last character. -/
  | beyondUnicode
  /-- A timestamp given as the `=` value of a mapping: its form is matched against the mapping's
  list of pairs, which is no text. -/
  | pairsAsText
  deriving Repr

/-- The name of a refusal's kind. -/
def Refusal.className : Refusal → String
  | .badMoment _ | .badNumber _ | .beyondUnicode => "ValueError"
  | .notATimestamp => "AttributeError"
  | .unknownTruth _ => "KeyError"
  | .emptyNumber => "IndexError"
  | .pairsAsText => "TypeError"

/-- The message of a refusal. -/
def Refusal.message : Refusal → String
  | .badMoment m | .badNumber m => m
  | .notATimestamp => "'NoneType' object has no attribute 'groupdict'"
  | .unknownTruth t => Text.quote t
  | .emptyNumber => "string index out of range"
  | .beyondUnicode => "chr() arg not in range(0x110000)"
  | .pairsAsText => "expected string or bytes-like object, got 'list'"

/-- An error met while reading a YAML text. -/
inductive Error where
  /-- A character outside the printable set, by its code and index. -/
  | unacceptable (code index : Nat)
  /-- An error of one stage: context and problem, each with its mark. -/
  | marked (stage : Stage) (context : Option String) (contextMark : Option Mark)
      (problem : String) (problemMark : Mark)
  /-- A scalar refused while building values: no error of the YAML language itself. -/
  | refused (r : Refusal)
  deriving Repr

namespace Error

/-- The name of an error's kind. -/
def className : Error → String
  | .unacceptable .. => "ReaderError"
  | .marked stage .. => stage.className
  | .refused r => r.className

/-- Whether an error is one of the YAML language: of reading, scanning, parsing, composing or
constructing. -/
def isSyntax : Error → Bool
  | .refused _ => false
  | _ => true

/-- **The message of an error**, with snippets taken from the text `buf` reads. -/
def message (buf : Array Char) : Error → String
  | .unacceptable code index =>
    let digits := String.ofList (Text.hexDigits 4 code)
    s!"unacceptable character #x{digits}: special characters are not allowed\n" ++
      s!"  in \"<unicode string>\", position {index}"
  | .marked _ context contextMark problem problemMark =>
    let ctx := context.toList
    let ctxMark := match contextMark with
      | some m => if m.line == problemMark.line && m.column == problemMark.column then []
        else [m.render buf]
      | none => []
    "\n".intercalate (ctx ++ ctxMark ++ [problem, problemMark.render buf])
  | .refused r => r.message

end Error

/-- The text a reader works on: the characters, then a final `NUL` that stands for the end. -/
def bufferOf (text : String) : Array Char := (text.toList ++ ['\x00']).toArray

example : (Error.marked .parser (some "while parsing a flow node") (some ⟨9, 1, 0⟩)
    "expected the node content, but found '<stream end>'" ⟨9, 1, 0⟩).message
      (bufferOf "tasks: [\n") =
    "while parsing a flow node\nexpected the node content, but found '<stream end>'\n" ++
    "  in \"<unicode string>\", line 2, column 1:\n    \n    ^" := by decide +kernel

end ApiAudit.Yaml
