import ApiAudit.Data.Value
import ApiAudit.Number.Text
import ApiAudit.Text.Quoted

/-!
# Data/Value/Text — the literal and the text of a value

Messages show values in two ways:

* the **literal** (`Value.literal`): `None`, `True`, `12`, `1.1`, `'a.B'`, `b'hi'`, `['a', 2]`,
  `('a', 1)`, `{'a', 'b'}`, `{'v': '11'}`, `datetime.date(2020, 1, 1)` — texts quoted
  (`Text/Quoted`), items separated by `", "`, keys and values by `": "`, a tuple of one item
  written `(x,)`, the empty set `set()`, timestamps as `Timestamp.literal` writes them;
* the **text** (`Value.text`): a text stands for itself, a timestamp is its ISO text, anything
  else is its literal.

Where a value holds itself, the inner occurrence is written `[...]` for a list and `{...}` for a
dictionary.  Doubles use `FloatStyle.plain`.  A whole number of more than 4300 digits has no
literal: a value holding one (`Value.hasLongInt`) cannot be shown, and showing it fails with
`longIntMessage`.
-/

namespace ApiAudit.Value

/-- How a value that holds itself is written where it occurs inside itself. -/
def marker : Value → String
  | .dict _ => "\x7b...\x7d"
  | .set _ => "\x7b...\x7d"
  | .tuple _ => "(...)"
  | _ => "[...]"

mutual
/-- **The literal of a value**, inside the values of `seen` (their ids and markers). -/
def literalIn (seen : List (Nat × String)) : Value → String
  | .null => "None"
  | .bool b => if b then "True" else "False"
  | .int n => toString n
  | .float x => Number.FloatStyle.plain.render x
  | .str s => Text.quote s
  | .time t => t.literal
  | .bytes data => Text.bytesLiteral data
  | .list items => "[" ++ literalItems seen items ++ "]"
  | .tuple [item] => "(" ++ literalIn seen item ++ ",)"
  | .tuple items => "(" ++ literalItems seen items ++ ")"
  | .set [] => "set()"
  | .set items => "\x7b" ++ literalItems seen items ++ "\x7d"
  | .dict entries => "\x7b" ++ literalEntries seen entries ++ "\x7d"
  | .cycle id body =>
    match seen.lookup id with
    | some m => m
    | none => literalIn ((id, marker body) :: seen) body
  | .back id => (seen.lookup id).getD "[...]"

/-- The literals of items, separated by `", "`. -/
def literalItems (seen : List (Nat × String)) : List Value → String
  | [] => ""
  | [v] => literalIn seen v
  | v :: rest => literalIn seen v ++ ", " ++ literalItems seen rest

/-- The literals of dictionary entries, `key: value`, separated by `", "`. -/
def literalEntries (seen : List (Nat × String)) : List (Value × Value) → String
  | [] => ""
  | [(k, v)] => literalIn seen k ++ ": " ++ literalIn seen v
  | (k, v) :: rest => literalIn seen k ++ ": " ++ literalIn seen v ++ ", " ++ literalEntries seen rest
end

/-- **The literal of a value.** -/
def literal (v : Value) : String := literalIn [] v

/-- The most digits a whole number may have to be written. -/
def maxShownDigits : Nat := 4300

/-- The smallest whole number with too many digits to be written. -/
def longIntBound : Nat := Nat.pow 10 maxShownDigits

/-- Whether a whole number has too many digits to be written. -/
def isLongInt (n : Int) : Bool := longIntBound ≤ n.natAbs

/-- **Whether a value holds a whole number too long to be written.** -/
def hasLongInt : Value → Bool
  | .int n => isLongInt n
  | .cycle _ body => hasLongInt body
  | .list xs => longItems xs
  | .tuple xs => longItems xs
  | .set xs => longItems xs
  | .dict es => longEntries es
  | _ => false
where
  /-- `hasLongInt` on items. -/
  longItems : List Value → Bool
    | [] => false
    | x :: xs => hasLongInt x || longItems xs
  /-- `hasLongInt` on entries. -/
  longEntries : List (Value × Value) → Bool
    | [] => false
    | (k, x) :: es => hasLongInt k || hasLongInt x || longEntries es

/-- The failure of writing a whole number too long to be written. -/
def longIntMessage : String :=
  "Exceeds the limit (4300 digits) for integer string conversion; " ++
    "use sys.set_int_max_str_digits() to increase the limit"

/-- **The text of a value**: a text itself, a timestamp its ISO text, anything else its literal. -/
def text : Value → String
  | .str s => s
  | .time t => t.text
  | v => literal v

/-- The literal of a list of texts. -/
def literalOfStrs (xs : List String) : String := literal (.list (xs.map .str))

example : literal (.list [.str "1", .int 2]) = "['1', 2]" := by decide
example : literal (obj [("v", .str "11")]) = "\x7b'v': '11'\x7d" := by decide
example : literal (.cycle 0 (obj [("a", .back 0)])) = "\x7b'a': \x7b...\x7d\x7d" := by decide
example : literal (.list [.tuple [.str "a"], .set [], .bytes [104, 105]]) = "[('a',), set(), b'hi']" := by
  decide

end ApiAudit.Value
