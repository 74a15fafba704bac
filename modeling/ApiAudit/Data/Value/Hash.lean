import ApiAudit.Data.Value

/-!
# Data/Value/Hash — the order a set of numbers is kept in

A set keeps its items in a hash table and shows them in the order of the table's slots.  For
numbers that order is fixed, because a number's hash is its value modulo the prime
`P = 2^61 - 1` (`numberHash?`): a whole number `n` hashes to `n mod P` with the sign of `n`,
a double `m · 2^e` to `m · 2^(e mod 61) mod P` with its sign (so `2.0` and `2` agree), an
infinite double to `±314159`, and a hash of `-1` becomes `-2`.

`setOrder` places the items, in the order given, into a table of eight slots, or, for five
items or more, of the smallest power of two above twice their number.  An item goes to slot
`hash mod size` or, when that is taken, to the first free one of the ten slots from there (only
where all ten lie inside the table), then jumps to `(5i + 1 + perturb) mod size` with `perturb`
the hash shifted right by five more bits on every jump, and tries again.

Other values (texts, byte strings, null, timestamps, not-a-number) hash by a value that changes
from run to run; a set holding one of them keeps the order given.
-/

namespace ApiAudit.Value

/-- The prime modulus of number hashes, `2^61 - 1`. -/
def hashModulus : Nat := Nat.pow 2 61 - 1

/-- A hash, with `-1` (which marks failure) moved to `-2`. -/
def settleHash (h : Int) : Int := if h == -1 then -2 else h

/-- The hash of a whole number. -/
def intHash (n : Int) : Int :=
  if 0 ≤ n then settleHash (n.toNat % hashModulus)
  else settleHash (-((n.natAbs % hashModulus : Nat) : Int))

/-- The hash of a double, unless it is not a number. -/
def floatHash? (x : Float) : Option Int :=
  if x.isNaN then none
  else if x.isInf then some (if x > 0 then 314159 else -314159)
  else match Number.Binary.ofFloat? x with
    | (_, none) => some 0
    | (neg, some b) =>
      let h : Nat := b.mantissa * Nat.pow 2 (b.exponent % 61).toNat % hashModulus
      some (settleHash (if neg then -(h : Int) else h))

/-- **The hash of a number**; `none` for values whose hash changes from run to run. -/
def numberHash? : Value → Option Int
  | .bool b => some (if b then 1 else 0)
  | .int n => some (intHash n)
  | .float x => floatHash? x
  | _ => none

/-- A hash as an unsigned 64-bit word. -/
def hashWord (h : Int) : Nat := if 0 ≤ h then h.toNat else (Int.pow 2 64 + h).toNat

/-- The smallest power of two above `m`, at least `size`; `fuel` bounds the doublings. -/
def tableSize : Nat → Nat → Nat → Nat
  | 0, _, size => size
  | fuel + 1, m, size => if m < size then size else tableSize fuel m (2 * size)

/-- The slot an item goes to in a table of `size` slots whose taken slots `taken` says, looking
from slot `i` with the bits `perturb` still to mix in; `fuel` bounds the jumps. -/
def freeSlot (taken : Nat → Bool) (size : Nat) : Nat → Nat → Nat → Option Nat
  | 0, _, _ => none
  | fuel + 1, i, perturb =>
    let span := if i + 9 < size then 10 else 1
    match (List.range span).find? (fun k => !taken (i + k)) with
    | some k => some (i + k)
    | none =>
      let p := perturb / 32
      freeSlot taken size fuel ((i * 5 + 1 + p) % size) p

/-- Puts an item with its hash into a table. -/
def placeItem (table : Array (Option Value)) (item : Value × Int) : Array (Option Value) :=
  let size := table.size
  let w := hashWord item.2
  match freeSlot (fun j => (table.getD j none).isSome) size (2 * size + 70) (w % size) w with
  | some j => table.set! j (some item.1)
  | none => table.push (some item.1)

/-- **The order a set shows its items in**, given in the order they were added (no two equal). -/
def setOrder (items : List Value) : List Value :=
  match items.mapM numberHash? with
  | none => items
  | some hashes =>
    let n := items.length
    let size := if 21 ≤ n * 5 then tableSize 64 (2 * n) 8 else 8
    let table := (items.zip hashes).foldl placeItem (Array.replicate size none)
    table.toList.filterMap id

example : intHash (-1) = -2 ∧ intHash (2 ^ 61) = 1 := by decide

end ApiAudit.Value
