import ApiAudit.Data.Timestamp
import ApiAudit.Number.Shortest

/-!
# Data/Value — dynamic values

Raw front-end values, build files, schema instances and trace events are **dynamic values**:
null, booleans, whole numbers of any size, doubles, texts, lists and dictionaries; YAML texts
also write timestamps, byte strings, pairs (tuples), sets, and values that hold themselves.
A dictionary keeps its entries in insertion order; putting a key that is already there replaces
its value in place.  Keys are values too (a build file may use a number as a key); as keys,
numbers and booleans compare by exact numeric value (`sameKey`), so `1`, `1.0` and `true` are
one key.

A value that holds itself is written `cycle id body`: inside `body`, `back id` stands for the
whole value again.  `unfold` replaces those `back id` by the value, one level deep, so that the
value can be looked into like any other.
-/

namespace ApiAudit

/-- A dynamic value. -/
inductive Value where
  | null
  | bool (b : Bool)
  | int (n : Int)
  | float (x : Float)
  | str (s : String)
  | time (t : Timestamp)
  | bytes (data : List UInt8)
  | list (items : List Value)
  | tuple (items : List Value)
  | set (items : List Value)
  | dict (entries : List (Value × Value))
  /-- A list or dictionary `body` that holds itself where `back id` stands. -/
  | cycle (id : Nat) (body : Value)
  /-- The value of the enclosing `cycle` with this id. -/
  | back (id : Nat)
  deriving Inhabited

namespace Value

/-- **Exact equality of a double and a whole number**: the double's binary value `m · 2^e`
is compared with the number without rounding either, so `2^53 + 1` is not `2^53` as a double. -/
def floatIsInt (x : Float) (n : Int) : Bool :=
  match Number.Binary.ofFloat? x with
  | (_, none) => x == 0 && n == 0
  | (neg, some b) =>
    let m : Int := if neg then -(b.mantissa : Int) else b.mantissa
    if 0 ≤ b.exponent then n == m * Int.pow 2 b.exponent.toNat
    else n * Int.pow 2 (-b.exponent).toNat == m

/-- **Key equality**: texts and byte strings by content, numbers and booleans by exact numeric
value (`true` is `1`), null with null, timestamps by the moment they name.  Collections never
serve as keys here. -/
def sameKey : Value → Value → Bool
  | .str a, .str b => a == b
  | .bytes a, .bytes b => a == b
  | .null, .null => true
  | .int a, .int b => a == b
  | .bool a, .bool b => a == b
  | .int a, .bool b | .bool b, .int a => a == if b then 1 else 0
  | .float x, .float y => x == y
  | .float x, .int n | .int n, .float x => floatIsInt x n
  | .float x, .bool b | .bool b, .float x => x == if b then 1 else 0
  | .time a, .time b => a.sameMoment b
  | _, _ => false

/-- The value stored under a key in dictionary entries. -/
def lookup (entries : List (Value × Value)) (k : Value) : Option Value :=
  (entries.find? fun e => sameKey e.1 k).map Prod.snd

/-- **Replaces `back id`** in a value by another value, leaving alone what an inner `cycle` of
the same id binds. -/
def replaceBack (id : Nat) (whole : Value) : Value → Value
  | .back j => if j == id then whole else .back j
  | .cycle j body => if j == id then .cycle j body else .cycle j (replaceBack id whole body)
  | .list xs => .list (replaceItems id whole xs)
  | .tuple xs => .tuple (replaceItems id whole xs)
  | .set xs => .set (replaceItems id whole xs)
  | .dict es => .dict (replaceEntries id whole es)
  | v => v
where
  /-- `replaceBack` on items. -/
  replaceItems (id : Nat) (whole : Value) : List Value → List Value
    | [] => []
    | x :: xs => replaceBack id whole x :: replaceItems id whole xs
  /-- `replaceBack` on entries. -/
  replaceEntries (id : Nat) (whole : Value) : List (Value × Value) → List (Value × Value)
    | [] => []
    | (k, x) :: es => (replaceBack id whole k, replaceBack id whole x) :: replaceEntries id whole es

/-- **Whether a value holds `back id`** outside any inner `cycle` of the same id. -/
def refersTo (id : Nat) : Value → Bool
  | .back j => j == id
  | .cycle j body => j != id && refersTo id body
  | .list xs => itemsRefer id xs
  | .tuple xs => itemsRefer id xs
  | .set xs => itemsRefer id xs
  | .dict es => entriesRefer id es
  | _ => false
where
  /-- `refersTo` on items. -/
  itemsRefer (id : Nat) : List Value → Bool
    | [] => false
    | x :: xs => refersTo id x || itemsRefer id xs
  /-- `refersTo` on entries. -/
  entriesRefer (id : Nat) : List (Value × Value) → Bool
    | [] => false
    | (k, x) :: es => refersTo id k || refersTo id x || entriesRefer id es

/-- **One level of a value that holds itself**: its body, where it holds itself again standing
as the whole value; any other value is itself. -/
def unfold : Value → Value
  | .cycle id body => replaceBack id (.cycle id body) body
  | v => v

mutual
/-- **Equality of values**: as keys for scalars; item by item for lists and for tuples; for
sets the same number of items, each of one in the other; for dictionaries the same number of
entries, each key of one holding an equal value in the other.  A list never equals a tuple. -/
def equals : Value → Value → Bool
  | .list xs, .list ys => equalItems xs ys
  | .tuple xs, .tuple ys => equalItems xs ys
  | .set xs, .set ys => xs.length == ys.length && itemsWithin xs ys
  | .dict xs, .dict ys => xs.length == ys.length && entriesWithin xs ys
  | .cycle i a, .cycle j b => i == j && equals a b
  | .back i, .back j => i == j
  | a, b => sameKey a b

/-- Item-by-item equality of lists. -/
def equalItems : List Value → List Value → Bool
  | [], [] => true
  | x :: xs, y :: ys => equals x y && equalItems xs ys
  | _, _ => false

/-- Whether every item of the first set is in the second. -/
def itemsWithin : List Value → List Value → Bool
  | [], _ => true
  | x :: rest, ys => ys.any (sameKey x) && itemsWithin rest ys

/-- Whether every entry of the first dictionary is found, with an equal value, in the second. -/
def entriesWithin : List (Value × Value) → List (Value × Value) → Bool
  | [], _ => true
  | (k, v) :: rest, ys =>
    (match lookup ys k with
     | some w => equals v w
     | none => false) && entriesWithin rest ys
end

/-- Puts a key: an existing key keeps its place and takes the new value, a new key goes last. -/
def putEntry (entries : List (Value × Value)) (k v : Value) : List (Value × Value) :=
  if entries.any (fun e => sameKey e.1 k) then
    entries.map fun e => if sameKey e.1 k then (e.1, v) else e
  else entries ++ [(k, v)]

/-- A dictionary built by putting the pairs in order. -/
def ofPairs (pairs : List (Value × Value)) : Value :=
  .dict (pairs.foldl (fun acc p => putEntry acc p.1 p.2) [])

/-- A dictionary with text keys. -/
def obj (pairs : List (String × Value)) : Value :=
  ofPairs (pairs.map fun p => (.str p.1, p.2))

/-- The value under a text key of a dictionary. -/
def get? (v : Value) (key : String) : Option Value :=
  match v with
  | .dict es => lookup es (.str key)
  | _ => none

/-- Whether a dictionary has a text key. -/
def has (v : Value) (key : String) : Bool := (v.get? key).isSome

/-- The value under a text key, null when it is missing. -/
def field (v : Value) (key : String) : Value := (v.get? key).getD .null

/-- A dictionary with one more text key (replacing in place when present). -/
def withField (v : Value) (key : String) (x : Value) : Value :=
  match v with
  | .dict es => .dict (putEntry es (.str key) x)
  | _ => .dict [(.str key, x)]

/-- A list of texts as a value. -/
def strs (xs : List String) : Value := .list (xs.map .str)

/-- An optional text as a value, null when absent. -/
def optStr : Option String → Value
  | some s => .str s
  | none => .null

/-- The text of a text value. -/
def asStr? : Value → Option String
  | .str s => some s
  | _ => none

/-- Whether a value is null. -/
def isNull : Value → Bool
  | .null => true
  | _ => false

/-- **Truth of a value**: null, `false`, zero, and the empty text, byte string and collections
are false; a timestamp is true, and so is a value that holds itself. -/
def truthy : Value → Bool
  | .null => false
  | .bool b => b
  | .int n => n != 0
  | .float x => x != 0
  | .str s => !s.isEmpty
  | .time _ => true
  | .bytes data => !data.isEmpty
  | .list xs => !xs.isEmpty
  | .tuple xs => !xs.isEmpty
  | .set xs => !xs.isEmpty
  | .dict es => !es.isEmpty
  | .cycle _ _ => true
  | .back _ => true

end Value

end ApiAudit
