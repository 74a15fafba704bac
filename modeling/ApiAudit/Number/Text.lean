import ApiAudit.Number.Shortest

/-!
# Number/Text — how a double is written

A double is written with its shortest digits (`Number/Shortest`).  A `FloatStyle` fixes the
rest: where positional notation stops, and how infinities and the not-a-number value are
spelled.  `FloatStyle.plain` is the style of messages and of value texts; `FloatStyle.json`
differs only in the spelling of the special values.

* positional when the decimal point falls after at most 16 digits and before at most 4
  leading zeros of the fraction: `100.0`, `0.0001`, `1000000000000000.0`;
* otherwise one digit, the rest after a point, then `e`, a sign and at least two exponent
  digits: `1e+16`, `1.5e-07`;
* a whole number in positional notation keeps `.0`; zero is `0.0` or `-0.0`.
-/

namespace ApiAudit.Number

/-- The decisions of a float text beyond its digits. -/
structure FloatStyle where
  /-- Decimal-point positions (digits before the point) written positionally, lowest. -/
  pointLow : Int
  /-- Decimal-point positions written positionally, highest. -/
  pointHigh : Int
  /-- Fewest digits of an exponent. -/
  exponentWidth : Nat
  /-- The text of the not-a-number value. -/
  nan : String
  /-- The text of positive infinity (negative infinity gets a minus sign). -/
  infinity : String

/-- Plain float texts: positional for point positions `-3 … 16`, two exponent digits,
`nan` and `inf`. -/
def FloatStyle.plain : FloatStyle := ⟨-3, 16, 2, "nan", "inf"⟩

/-- Float texts inside JSON documents: as `plain`, with `NaN` and `Infinity`. -/
def FloatStyle.json : FloatStyle := ⟨-3, 16, 2, "NaN", "Infinity"⟩

/-- Writes digits `ds` (no trailing zeros) with the decimal point after `point` digits. -/
def positional (ds : List Char) (point : Int) : String :=
  if point ≤ 0 then
    "0." ++ String.ofList (List.replicate (-point).toNat '0' ++ ds)
  else if point.toNat < ds.length then
    String.ofList (ds.take point.toNat ++ '.' :: ds.drop point.toNat)
  else
    String.ofList (ds ++ List.replicate (point.toNat - ds.length) '0') ++ ".0"

/-- Writes digits `ds` as `d.ddd` and the exponent `exp` with a sign and `width` digits. -/
def scientific (ds : List Char) (exp : Int) (width : Nat) : String :=
  let mant := match ds with
    | [] => "0"
    | [d] => String.ofList [d]
    | d :: rest => String.ofList (d :: '.' :: rest)
  let expDigits := Nat.toDigits 10 exp.natAbs
  let padded := List.replicate (width - expDigits.length) '0' ++ expDigits
  mant ++ "e" ++ (if exp < 0 then "-" else "+") ++ String.ofList padded

/-- **The text of a double** in a style. -/
def FloatStyle.render (st : FloatStyle) (x : Float) : String :=
  if x.isNaN then st.nan
  else
    match Binary.ofFloat? x with
    | (neg, none) =>
      let body := if x.isInf then st.infinity else "0.0"
      if neg then "-" ++ body else body
    | (neg, some b) =>
      let (c, q) := b.shortest
      let ds := Nat.toDigits 10 c
      let point := q + ds.length
      let body :=
        if st.pointLow ≤ point && point ≤ st.pointHigh then positional ds point
        else scientific ds (point - 1) st.exponentWidth
      if neg then "-" ++ body else body

end ApiAudit.Number
