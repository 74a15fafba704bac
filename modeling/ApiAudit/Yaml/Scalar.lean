import ApiAudit.Yaml.Node
import ApiAudit.Number.Read
import ApiAudit.Text.Case
import ApiAudit.Text.Base64
import ApiAudit.Text.Utf8
import ApiAudit.Data.Value

/-!
# Yaml/Scalar — the values of scalars, by their tags

A node read as a scalar gives its text (`Node.scalarText`): a scalar its own, a mapping the
text of the value under its first `=` key; anything else is an error.  The text then becomes a
value by the node's tag (`scalarValue`):

* **null** — null, whatever the text;
* **bool** — the text in lower case is `yes`, `true` or `on` (true) or `no`, `false` or `off`
  (false); any other text is refused, named in lower case;
* **int** — underscores left out, an optional sign, then `0` alone, `0b` and binary digits,
  `0x` and hexadecimal digits, `0` and octal digits, places in base 60 between colons, or a
  decimal, each read as a whole number (`Number.readInt`); an empty text is refused;
* **float** — underscores left out and the text in lower case, an optional sign, then `.inf`,
  `.nan`, places in base 60 between colons, or a double (`Number.readFloat`);
* **binary** — the text must be ASCII, and is read as lenient base64 (`Text.decodeBase64`);
* **timestamp** — the fields of the timestamp form, when they name a real moment; the form is
  matched against the node itself, so a mapping with an `=` key is refused as no text;
* **str** — the text itself.
-/

namespace ApiAudit.Yaml

/-- Fails with a constructing error. -/
def constructError {α : Type} (context : Option String) (contextMark : Option Mark)
    (problem : String) (m : Mark) : Except Error α :=
  .error (.marked .constructor context contextMark problem m)

/-- **The text of a node read as a scalar**; `fuel` bounds the `=` keys followed. -/
def Node.scalarText : Nat → Node → Except Error String
  | _, .scalar _ v _ => .ok v
  | fuel + 1, .mapping t pairs start =>
    match pairs.find? (fun p => p.1.tag == Tag.standard "value") with
    | some (_, v) => v.scalarText fuel
    | none => constructError none none "expected a scalar node, but found mapping" (Node.mapping t pairs start).start
  | _, n => constructError none none s!"expected a scalar node, but found {n.kindName}" n.start

/-- The error of a number text that does not read. -/
def numberRefused (r : Number.ReadRefusal) : Error := .refused (.badNumber r.message)

/-- A whole number read in a base, as a YAML error when it does not read. -/
def readIntIn (base : Nat) (cs : List Char) : Except Error Int :=
  (Number.readInt base (String.ofList cs)).mapError numberRefused

/-- A double read from text, as a YAML error when it does not read. -/
def readFloatIn (cs : List Char) : Except Error Float :=
  (Number.readFloat (String.ofList cs)).mapError numberRefused

/-- The parts of a text between colons. -/
def colonParts (cs : List Char) : List (List Char) :=
  (String.ofList cs).splitOn ":" |>.map String.toList

/-- **The value of a `bool` text.** -/
def truthValue (text : String) : Except Error Value :=
  let t := Text.lower text
  if t == "yes" || t == "true" || t == "on" then .ok (.bool true)
  else if t == "no" || t == "false" || t == "off" then .ok (.bool false)
  else .error (.refused (.unknownTruth t))

/-- **The value of an `int` text.** -/
def intValue (text : String) : Except Error Value := do
  let cs := text.toList.filter (· != '_')
  let some c := cs.head? | throw (.refused .emptyNumber)
  let body := if c == '+' || c == '-' then cs.drop 1 else cs
  let sign (n : Int) : Int := if c == '-' then -n else n
  match body with
  | ['0'] => pure (.int 0)
  | '0' :: 'b' :: ds => return .int (sign (← readIntIn 2 ds))
  | '0' :: 'x' :: ds => return .int (sign (← readIntIn 16 ds))
  | '0' :: _ => return .int (sign (← readIntIn 8 body))
  | [] => throw (.refused .emptyNumber)
  | _ =>
    if body.contains ':' then
      let places ← (colonParts body).mapM (readIntIn 10)
      pure (.int (sign (places.foldl (fun acc d => acc * 60 + d) 0)))
    else return .int (sign (← readIntIn 10 body))

/-- **The value of a `float` text.** -/
def floatValue (text : String) : Except Error Value := do
  let cs := (Text.lower (String.ofList (text.toList.filter (· != '_')))).toList
  let some c := cs.head? | throw (.refused .emptyNumber)
  let body := if c == '+' || c == '-' then cs.drop 1 else cs
  let sign (x : Float) : Float := if c == '-' then -x else x
  if body == ".inf".toList then pure (.float (sign (1.0 / 0.0)))
  else if body == ".nan".toList then pure (.float (0.0 / 0.0))
  else if body.contains ':' then
    let places ← (colonParts body).mapM readFloatIn
    let (sum, _) := places.reverse.foldl
      (fun (acc : Float × Nat) d => (acc.1 + d * acc.2.toFloat, acc.2 * 60)) (0.0, 1)
    pure (.float (sign sum))
  else return .float (sign (← readFloatIn body))

/-- **The value of a `binary` text** of a node starting at `start`. -/
def binaryValue (text : String) (start : Mark) : Except Error Value :=
  match Text.asciiRefusal? text with
  | some r => constructError none none ("failed to convert base64 data into ascii: " ++ r.message) start
  | none =>
    match Text.decodeBase64 text.toUTF8.toList with
    | .ok data => .ok (.bytes data)
    | .error e => constructError none none ("failed to decode base64 data: " ++ e.message) start

/-- **The value of a timestamp text**: a real moment, or a refusal. -/
def timestampValue (text : String) : Except Error Value :=
  match Tag.timestampFields? text with
  | none => .error (.refused .notATimestamp)
  | some t =>
    match t.check with
    | .ok t => .ok (.time t)
    | .error m => .error (.refused (.badMoment m))

/-- The tags of scalar values. -/
def scalarTags : List String := ["null", "bool", "int", "float", "binary", "timestamp", "str"]

/-- Whether a tag is one of the tags of scalar values. -/
def isScalarTag (tag : String) : Bool := scalarTags.any (Tag.standard · == tag)

/-- **The value of a node of a scalar tag**; `fuel` bounds the `=` keys followed. -/
def scalarValue (fuel : Nat) (tag : String) (n : Node) : Except Error Value := do
  let text ← n.scalarText fuel
  if tag == Tag.standard "null" then pure .null
  else if tag == Tag.standard "bool" then truthValue text
  else if tag == Tag.standard "int" then intValue text
  else if tag == Tag.standard "float" then floatValue text
  else if tag == Tag.standard "binary" then binaryValue text n.start
  else if tag == Tag.standard "timestamp" then
    match n with
    | .scalar .. => timestampValue text
    | _ => throw (.refused .pairsAsText)
  else pure (.str text)

end ApiAudit.Yaml
