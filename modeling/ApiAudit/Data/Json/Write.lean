import ApiAudit.Data.Value.Text
import ApiAudit.Number.Text
import ApiAudit.Text.Quoted
import ApiAudit.Text.Surrogate

/-!
# Data/Json/Write — writing a value as a JSON document

A `Json.Style` fixes the layout: the separator between items, between a key and its value, an
optional indentation (then every item goes on a line of its own), and whether characters beyond
ASCII are escaped.  Two styles are used:

* `Json.Style.line` — one line, `", "` and `": "`, characters kept (trace files);
* `Json.Style.indented` — two spaces of indentation, `","` and `": "`, characters kept
  (error details on the command line).

Strings escape `"` and `\`, write `\n`, `\r`, `\t`, `\b`, `\f`, and other control characters as
`\u00XX`; with `ascii` every character from delete up is written `\uXXXX` (two escapes, a
surrogate pair, above the basic plane, and the unit itself for the stand-in of a lone
surrogate).  Doubles use `FloatStyle.json`; a timestamp is written
as the string of its ISO text.  A key that is not a
text is written as the text of its JSON value (`1`, `true`, `null`).
-/

namespace ApiAudit.Json

/-- The layout of a written document. -/
structure Style where
  itemSep : String
  keySep : String
  indent : Option Nat
  ascii : Bool

/-- One line, characters kept. -/
def Style.line : Style := ⟨", ", ": ", none, false⟩

/-- Two spaces of indentation, characters kept. -/
def Style.indented : Style := ⟨",", ": ", some 2, false⟩

/-- One line, everything beyond ASCII escaped. -/
def Style.asciiLine : Style := ⟨", ", ": ", none, true⟩

/-- A `\uXXXX` escape. -/
def unitEscape (n : Nat) : List Char := '\\' :: 'u' :: Text.hexDigits 4 n

/-- How a character is written inside a JSON string. -/
def escapeChar (ascii : Bool) (c : Char) : List Char :=
  let n := c.toNat
  if c = '"' then ['\\', '"']
  else if c = '\\' then ['\\', '\\']
  else if c = '\n' then ['\\', 'n']
  else if c = '\r' then ['\\', 'r']
  else if c = '\t' then ['\\', 't']
  else if n == 8 then ['\\', 'b']
  else if n == 12 then ['\\', 'f']
  else if n < 0x20 then unitEscape n
  else if ascii && n ≥ 0x7F then
    if let some u := Text.unit? c then unitEscape u
    else if n ≥ 0x10000 then
      let v := n - 0x10000
      unitEscape (0xD800 + v / 0x400) ++ unitEscape (0xDC00 + v % 0x400)
    else unitEscape n
  else [c]

/-- A JSON string literal. -/
def quote (ascii : Bool) (s : String) : String :=
  String.ofList ('"' :: s.toList.flatMap (escapeChar ascii) ++ ['"'])

/-- The text a non-text key is written as. -/
def keyText : Value → String
  | .str s => s
  | .null => "null"
  | .bool b => if b then "true" else "false"
  | .int n => toString n
  | .float x => Number.FloatStyle.json.render x
  | _ => ""

/-- Line break and indentation before an item at nesting `depth`. -/
def Style.breakAt (st : Style) (depth : Nat) : String :=
  match st.indent with
  | some k => "\n" ++ String.ofList (List.replicate (k * depth) ' ')
  | none => ""

mutual
/-- **Writes a value** at nesting `depth`. -/
def write (st : Style) (depth : Nat) : Value → String
  | .null => "null"
  | .bool b => if b then "true" else "false"
  | .int n => toString n
  | .float x => Number.FloatStyle.json.render x
  | .str s => quote st.ascii s
  | .time t => quote st.ascii t.text
  | .bytes data => quote st.ascii (Text.bytesLiteral data)
  | .set items => quote st.ascii (Value.literal (.set items))
  | .cycle _ body => write st depth body
  | .back _ => "null"
  | .list [] | .tuple [] => "[]"
  | .list items | .tuple items => "[" ++ writeItems st (depth + 1) items ++ st.breakAt depth ++ "]"
  | .dict [] => "\x7b\x7d"
  | .dict entries => "\x7b" ++ writeEntries st (depth + 1) entries ++ st.breakAt depth ++ "\x7d"

/-- Writes list items at `depth`. -/
def writeItems (st : Style) (depth : Nat) : List Value → String
  | [] => ""
  | [v] => st.breakAt depth ++ write st depth v
  | v :: rest => st.breakAt depth ++ write st depth v ++ st.itemSep ++ writeItems st depth rest

/-- Writes dictionary entries at `depth`. -/
def writeEntries (st : Style) (depth : Nat) : List (Value × Value) → String
  | [] => ""
  | [(k, v)] => st.breakAt depth ++ quote st.ascii (keyText k) ++ st.keySep ++ write st depth v
  | (k, v) :: rest =>
    st.breakAt depth ++ quote st.ascii (keyText k) ++ st.keySep ++ write st depth v ++
      st.itemSep ++ writeEntries st depth rest
end

/-- **The JSON text of a value** in a style. -/
def render (st : Style) (v : Value) : String := write st 0 v

example : render Style.line (Value.obj [("a", .list [.int 1, .str "é"])]) = "\x7b\"a\": [1, \"é\"]\x7d" := by
  decide
example : render Style.indented (Value.obj [("a", .list [.int 1])]) = "\x7b\n  \"a\": [\n    1\n  ]\n\x7d" := by
  decide

end ApiAudit.Json
