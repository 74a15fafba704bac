import ApiAudit.Data.Value
import ApiAudit.Number.Decimal
import ApiAudit.Text.Surrogate

/-!
# Data/Json/Read — reading a JSON document

`Json.read` turns a text into a `Value` or a `Json.ReadError`: what was expected and the
position (in characters) where reading stopped, or a limit the document goes beyond.

* whitespace is space, tab, line feed and carriage return;
* a number without fraction and exponent is a whole number of any size, any other is a double;
  `NaN`, `Infinity` and `-Infinity` are read as the special doubles;
* a string may not hold a control character below the space; escapes are `\"`, `\\`, `\/`,
  `\b`, `\f`, `\n`, `\r`, `\t` and `\uXXXX`, where a high and a low surrogate escape in a row
  make one character (a lone surrogate reads as its stand-in, `Text/Surrogate`);
* in an object a repeated key keeps its first place and takes the last value;
* after the document only whitespace may follow;
* a text starting with a byte-order mark is refused;
* arrays and objects nest at most `maxDepth` deep, and a whole number has at most
  `maxDigits` digits.

The messages are those of the reader this format is specified by: `Expecting value`,
`Expecting ',' delimiter`, `Expecting ':' delimiter`,
`Expecting property name enclosed in double quotes`, `Unterminated string starting at`,
`Invalid control character at`, `Invalid \escape`, `Invalid \uXXXX escape`, `Extra data`.
-/

namespace ApiAudit.Json

/-- Why a text is no JSON document. -/
inductive ReadError where
  /-- The text breaks the grammar: what was expected, and where reading stopped. -/
  | malformed (message : String) (pos : Nat)
  /-- Arrays or objects nest too deep; the flag tells whether the last one opened is an
  object. -/
  | tooDeep (inObject : Bool)
  /-- A whole number has too many digits. -/
  | tooManyDigits (count : Nat)
  deriving Repr

/-- The deepest nesting of arrays and objects that is read. -/
def maxDepth : Nat := 985

/-- The most digits a whole number may have. -/
def maxDigits : Nat := 4300

/-- The message of too many digits in a whole number. -/
def tooManyDigitsMessage (count : Nat) : String :=
  s!"Exceeds the limit ({maxDigits} digits) for integer string conversion: value has {count} digits; " ++
    "use sys.set_int_max_str_digits() to increase the limit"

/-- What remains to be read, and its position. -/
abbrev Input := List Char × Nat

/-- JSON whitespace. -/
def isSpace (c : Char) : Bool := c == ' ' || c == '\t' || c == '\n' || c == '\r'

/-- Skips whitespace. -/
def skipSpace : Input → Input
  | (c :: cs, p) => if isSpace c then skipSpace (cs, p + 1) else (c :: cs, p)
  | ([], p) => ([], p)

/-- The value of a hex digit. -/
def hexValue (c : Char) : Option Nat :=
  if '0' ≤ c && c ≤ '9' then some (c.toNat - '0'.toNat)
  else if 'a' ≤ c && c ≤ 'f' then some (c.toNat - 'a'.toNat + 10)
  else if 'A' ≤ c && c ≤ 'F' then some (c.toNat - 'A'.toNat + 10)
  else none

/-- Four hex digits as a number. -/
def hex4 : List Char → Option Nat
  | [a, b, c, d] => do
    let a ← hexValue a; let b ← hexValue b; let c ← hexValue c; let d ← hexValue d
    pure (((a * 16 + b) * 16 + c) * 16 + d)
  | _ => none

/-- A code point as a character, a lone surrogate as its stand-in. -/
def charOfCode (n : Nat) : Char :=
  if Text.isSurrogateUnit n then Text.ofUnit n else Char.ofNat n

/-- The character a one-letter escape stands for. -/
def simpleEscape : Char → Option Char
  | '"' => some '"'
  | '\\' => some '\\'
  | '/' => some '/'
  | 'b' => some '\x08'
  | 'f' => some '\x0c'
  | 'n' => some '\n'
  | 'r' => some '\r'
  | 't' => some '\t'
  | _ => none

/-- Reads the body of a string after its opening quote at `begin`; `acc` holds the characters
read so far, reversed.  Returns the text and what follows the closing quote. -/
def readString (begin : Nat) : List Char → Nat → List Char → Except ReadError (String × Input)
  | [], _, _ => .error (.malformed "Unterminated string starting at" begin)
  | '"' :: rest, p, acc => .ok (String.ofList acc.reverse, (rest, p + 1))
  | '\\' :: rest, p, acc =>
    match rest with
    | [] => .error (.malformed "Unterminated string starting at" begin)
    | 'u' :: afterU =>
      if afterU.length ≤ 4 then .error (.malformed "Invalid \\uXXXX escape" (p + 1))
      else
        match hex4 (afterU.take 4) with
        | none => .error (.malformed "Invalid \\uXXXX escape" (p + 1))
        | some hi =>
          let tail := afterU.drop 4
          if 0xD800 ≤ hi && hi ≤ 0xDBFF && tail.length > 6 &&
              tail.take 2 == ['\\', 'u'] then
            match hex4 ((tail.drop 2).take 4) with
            | none => .error (.malformed "Invalid \\uXXXX escape" (p + 7))
            | some lo =>
              if 0xDC00 ≤ lo && lo ≤ 0xDFFF then
                let code := 0x10000 + (hi - 0xD800) * 0x400 + (lo - 0xDC00)
                readString begin (tail.drop 6) (p + 12) (Char.ofNat code :: acc)
              else readString begin tail (p + 6) (charOfCode hi :: acc)
          else readString begin tail (p + 6) (charOfCode hi :: acc)
    | c :: afterC =>
      match simpleEscape c with
      | some d => readString begin afterC (p + 2) (d :: acc)
      | none => .error (.malformed "Invalid \\escape" p)
  | c :: rest, p, acc =>
    if c.toNat ≤ 0x1F then .error (.malformed "Invalid control character at" p)
    else readString begin rest (p + 1) (c :: acc)
termination_by cs => cs.length
decreasing_by all_goals (simp only [List.length_drop, List.length_cons] at *; omega)

/-- ASCII digits. -/
def isDigit (c : Char) : Bool := '0' ≤ c && c ≤ '9'

/-- The value of a run of ASCII digits. -/
def digitsValue (ds : List Char) : Nat := ds.foldl (fun n d => n * 10 + (d.toNat - '0'.toNat)) 0

/-- Reads a number at the start of `cs` (position `p`), if one starts there: an optional minus,
an integer part without leading zeros, then a fraction and an exponent, each taken only when a
digit follows its mark. -/
def readNumber (cs : List Char) (p : Nat) : Option (Except ReadError (Value × Input)) :=
  let (neg, afterSign) := match cs with
    | '-' :: r => (true, r)
    | r => (false, r)
  let intDigits := match afterSign with
    | '0' :: _ => ['0']
    | r => r.takeWhile isDigit
  if intDigits.isEmpty then none
  else
    let r1 := afterSign.drop intDigits.length
    let (fracDigits, r2) := match r1 with
      | '.' :: d :: r => if isDigit d then
          let ds := (d :: r).takeWhile isDigit
          (some ds, (d :: r).drop ds.length)
        else (none, r1)
      | _ => (none, r1)
    let (expPart, r3) := match r2 with
      | e :: r => if e == 'e' || e == 'E' then
          let (eneg, r') := match r with
            | '-' :: r'' => (true, r'')
            | '+' :: r'' => (false, r'')
            | _ => (false, r)
          let ds := r'.takeWhile isDigit
          if ds.isEmpty then (none, r2) else (some (eneg, ds), r'.drop ds.length)
        else (none, r2)
      | [] => (none, r2)
    let used := cs.length - r3.length
    if fracDigits.isNone && expPart.isNone && maxDigits < intDigits.length then
      some (.error (.tooManyDigits intDigits.length))
    else
    let v : Value :=
      match fracDigits, expPart with
      | none, none =>
        let n : Int := digitsValue intDigits
        .int (if neg then -n else n)
      | _, _ =>
        let fd := fracDigits.getD []
        let m := digitsValue (intDigits ++ fd)
        let e : Int := match expPart with
          | some (en, ds) => if en then -(digitsValue ds : Int) else digitsValue ds
          | none => 0
        let x := Number.ofDecimal m (e - fd.length)
        .float (if neg then -x else x)
    some (.ok (v, (r3, p + used)))

mutual
/-- Reads one value at the start of the input, inside `depth` arrays and objects; `fuel`
bounds the steps. -/
def readValue : Nat → Nat → Input → Except ReadError (Value × Input)
  | 0, _, (_, p) => .error (.malformed "Expecting value" p)
  | fuel + 1, depth, (cs, p) =>
    match cs with
    | '"' :: rest => do
      let (s, after) ← readString p rest (p + 1) []
      pure (.str s, after)
    | '{' :: rest =>
      if maxDepth ≤ depth then .error (.tooDeep true)
      else readObject fuel (depth + 1) (skipSpace (rest, p + 1))
    | '[' :: rest =>
      if maxDepth ≤ depth then .error (.tooDeep false)
      else readArray fuel (depth + 1) (skipSpace (rest, p + 1))
    | 'n' :: 'u' :: 'l' :: 'l' :: rest => .ok (.null, (rest, p + 4))
    | 't' :: 'r' :: 'u' :: 'e' :: rest => .ok (.bool true, (rest, p + 4))
    | 'f' :: 'a' :: 'l' :: 's' :: 'e' :: rest => .ok (.bool false, (rest, p + 5))
    | _ =>
      match readNumber cs p with
      | some r => r
      | none =>
        match cs with
        | 'N' :: 'a' :: 'N' :: rest => .ok (.float (0.0 / 0.0), (rest, p + 3))
        | 'I' :: 'n' :: 'f' :: 'i' :: 'n' :: 'i' :: 't' :: 'y' :: rest =>
          .ok (.float (1.0 / 0.0), (rest, p + 8))
        | '-' :: 'I' :: 'n' :: 'f' :: 'i' :: 'n' :: 'i' :: 't' :: 'y' :: rest =>
          .ok (.float (-1.0 / 0.0), (rest, p + 9))
        | _ => .error (.malformed "Expecting value" p)

/-- Reads the items of an array after `[` and whitespace. -/
def readArray : Nat → Nat → Input → Except ReadError (Value × Input)
  | _, _, (']' :: rest, p) => .ok (.list [], (rest, p + 1))
  | fuel, depth, inp => readItems fuel depth inp []

/-- Reads array items, `acc` holding those read so far, reversed. -/
def readItems : Nat → Nat → Input → List Value → Except ReadError (Value × Input)
  | 0, _, (_, p), _ => .error (.malformed "Expecting value" p)
  | fuel + 1, depth, inp, acc => do
    let (v, after) ← readValue fuel depth inp
    match skipSpace after with
    | (']' :: rest, p) => pure (.list (v :: acc).reverse, (rest, p + 1))
    | (',' :: rest, p) => readItems fuel depth (skipSpace (rest, p + 1)) (v :: acc)
    | (_, p) => .error (.malformed "Expecting ',' delimiter" p)

/-- Reads the members of an object after `{` and whitespace. -/
def readObject : Nat → Nat → Input → Except ReadError (Value × Input)
  | _, _, ('}' :: rest, p) => .ok (.dict [], (rest, p + 1))
  | fuel, depth, inp => readMembers fuel depth inp []

/-- Reads object members, `acc` holding the entries so far. -/
def readMembers : Nat → Nat → Input → List (Value × Value) → Except ReadError (Value × Input)
  | 0, _, (_, p), _ => .error (.malformed "Expecting value" p)
  | fuel + 1, depth, (cs, p), acc =>
    match cs with
    | '"' :: rest => do
      let (key, afterKey) ← readString p rest (p + 1) []
      match skipSpace afterKey with
      | (':' :: r, q) =>
        let (v, after) ← readValue fuel depth (skipSpace (r, q + 1))
        let acc := Value.putEntry acc (.str key) v
        match skipSpace after with
        | ('}' :: rest, p) => pure (.dict acc, (rest, p + 1))
        | (',' :: rest, p) => readMembers fuel depth (skipSpace (rest, p + 1)) acc
        | (_, p) => .error (.malformed "Expecting ',' delimiter" p)
      | (_, q) => .error (.malformed "Expecting ':' delimiter" q)
    | _ => .error (.malformed "Expecting property name enclosed in double quotes" p)
end

/-- **Reads a JSON document.** -/
def read (s : String) : Except ReadError Value := do
  let cs := s.toList
  if cs.head? == some '\uFEFF' then throw (.malformed "Unexpected UTF-8 BOM (decode using utf-8-sig)" 0)
  let (v, after) ← readValue (cs.length + 1) 0 (skipSpace (cs, 0))
  match skipSpace after with
  | ([], _) => pure v
  | (_, p) => .error (.malformed "Extra data" p)

/-- The message of an error, without its position. -/
def ReadError.message : ReadError → String
  | .malformed m _ => m
  | .tooDeep inObject =>
    let what := if inObject then "object" else "array"
    s!"maximum recursion depth exceeded while decoding a JSON {what} from a unicode string"
  | .tooManyDigits n => tooManyDigitsMessage n

/-- The message with line, column and position, as the reader reports it for a document. -/
def ReadError.render (e : ReadError) (doc : String) : String :=
  match e with
  | .malformed m pos =>
    let before := doc.toList.take pos
    let line := before.count '\n' + 1
    let col := match (before.reverse.findIdx? (· == '\n')) with
      | some i => i + 1
      | none => pos + 1
    s!"{m}: line {line} column {col} (char {pos})"
  | e => e.message

end ApiAudit.Json
