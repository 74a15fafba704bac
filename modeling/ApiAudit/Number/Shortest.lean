/-!
# Number/Shortest — the shortest decimal that reads back as a given double

A finite double is an exact binary fraction `m · 2^e` (`Binary`).  Reading a decimal back
rounds it to the nearest double, ties to an even mantissa, so each double owns an interval of
reals (`Binary.low`, `Binary.high`, ends included iff `m` is even).  The shortest decimal is
found by trying grids of 1, 2, … 17 significant digits: on each grid only the two grid points
next to the value can lie in the interval; the first grid with a hit wins, and of two hits the
nearer one (an exact tie goes to the even digit string).

Everything is exact `Nat` arithmetic on a common scale `2^A · 10^B`.

Main definitions: `Binary.ofFloat?` decodes a double, `Binary.shortest` gives the digits and the
exponent of the last digit.
-/

namespace ApiAudit.Number

/-- A positive finite binary fraction `mantissa · 2^exponent`. -/
structure Binary where
  mantissa : Nat
  exponent : Int
  /-- The mantissa is the smallest normal one of its binade, so the gap below is half as wide. -/
  narrowBelow : Bool
  deriving Repr

/-- The number of decimal digits of a positive number (one for zero). -/
def digitCount (n : Nat) : Nat := (Nat.toDigits 10 n).length

/-- Splits a double into its sign and, when finite and not zero, its exact binary value. -/
def Binary.ofFloat? (x : Float) : Bool × Option Binary :=
  let bits : Nat := x.toBits.toNat
  let neg : Bool := bits / Nat.pow 2 63 % 2 == 1
  let expField : Nat := bits / Nat.pow 2 52 % Nat.pow 2 11
  let frac : Nat := bits % Nat.pow 2 52
  if expField == 0x7FF then (neg, none)
  else if expField == 0 then
    (neg, if frac == 0 then none else some ⟨frac, -1074, false⟩)
  else (neg, some ⟨frac + Nat.pow 2 52, (expField : Int) - 1075, frac == 0 && expField > 1⟩)

namespace Binary

/-- The binary scale `A`: multiplying by `2^A` makes the interval ends whole. -/
def twoScale (b : Binary) : Nat := (2 - b.exponent).toNat

/-- `2^(exponent - 2 + A)`, the weight of one quarter-unit after scaling. -/
def quarter (b : Binary) : Nat := Nat.pow 2 (b.exponent - 2 + b.twoScale).toNat

/-- The lower end of the reading interval, times `2^A`. -/
def low (b : Binary) : Nat :=
  (if b.narrowBelow then 4 * b.mantissa - 1 else 4 * b.mantissa - 2) * b.quarter

/-- The value, times `2^A`. -/
def mid (b : Binary) : Nat := 4 * b.mantissa * b.quarter

/-- The upper end of the reading interval, times `2^A`. -/
def high (b : Binary) : Nat := (4 * b.mantissa + 2) * b.quarter

/-- The ends of the interval read back to this double exactly when the mantissa is even. -/
def closed (b : Binary) : Bool := b.mantissa % 2 == 0

/-- The decimal exponent `E` with `10^E ≤ value < 10^(E+1)`. -/
def decimalExponent (b : Binary) : Int :=
  if b.exponent ≥ 0 then
    (digitCount (b.mantissa * Nat.pow 2 b.exponent.toNat) : Int) - 1
  else
    let den := Nat.pow 2 (-b.exponent).toNat
    let whole := b.mantissa / den
    if whole ≥ 1 then (digitCount whole : Int) - 1
    else
      -- the first `j` with `m · 10^j ≥ 2^k`
      match (List.range 400).find? fun j => b.mantissa * Nat.pow 10 (j + 1) ≥ den with
      | some j => -((j : Int) + 1)
      | none => -400

/-- Whether a scaled grid point `v` (value times `2^A · 10^B`) reads back to this double. -/
def inside (b : Binary) (tenScale : Nat) (v : Nat) : Bool :=
  let lo := b.low * Nat.pow 10 tenScale
  let hi := b.high * Nat.pow 10 tenScale
  if b.closed then lo ≤ v && v ≤ hi else lo < v && v < hi

/-- The grid point chosen on the grid `10^q`, if one of the two next to the value reads back:
its digit string `c`, so that the decimal is `c · 10^q`. -/
def onGrid (b : Binary) (q : Int) : Option Nat :=
  let tenScale := (-q).toNat
  let unit := Nat.pow 10 (q + tenScale).toNat * Nat.pow 2 b.twoScale
  let x := b.mid * Nat.pow 10 tenScale
  let below := x / unit
  let above := below + 1
  let okBelow := b.inside tenScale (below * unit)
  let okAbove := b.inside tenScale (above * unit)
  if okBelow && okAbove then
    let dBelow := x - below * unit
    let dAbove := above * unit - x
    if dBelow < dAbove then some below
    else if dAbove < dBelow then some above
    else if below % 2 == 0 then some below else some above
  else if okBelow then some below
  else if okAbove then some above
  else none

/-- Strips trailing zeros of a digit string, raising its exponent. -/
def stripZeros : Nat → Nat → Int → Nat × Int
  | 0, c, q => (c, q)
  | fuel + 1, c, q => if c ≠ 0 ∧ c % 10 = 0 then stripZeros fuel (c / 10) (q + 1) else (c, q)

/-- **The shortest decimal** `c · 10^q` that reads back as this value, `c` without trailing
zeros. -/
def shortest (b : Binary) : Nat × Int :=
  let e := b.decimalExponent
  let tries := (List.range 17).filterMap fun (i : Nat) =>
    (b.onGrid (e - i)).map fun c => (c, e - (i : Int))
  match tries.head? with
  | some (c, q) => stripZeros 20 c q
  | none =>
    -- seventeen digits always read back, so this nearest point on the finest grid is never used
    let q := e - 16
    let tenScale := (-q).toNat
    let unit := Nat.pow 10 (q + tenScale).toNat * Nat.pow 2 b.twoScale
    stripZeros 20 ((b.mid * Nat.pow 10 tenScale + unit / 2) / unit) q

end Binary

end ApiAudit.Number
