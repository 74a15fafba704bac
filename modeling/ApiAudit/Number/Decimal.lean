import ApiAudit.Number.Shortest

/-!
# Number/Decimal — reading a decimal as a double

`ofDecimal m e` is the double nearest to `m · 10^e`, ties to an even mantissa.  Decimals far
beyond the range of doubles are settled without computing their powers of ten: above `10^310`
they are infinite, below `10^-330` they are zero.
-/

namespace ApiAudit.Number

/-- **The double nearest to `m · 10^e`.** -/
def ofDecimal (m : Nat) (e : Int) : Float :=
  if m = 0 then 0
  else
    let adjusted := e + digitCount m
    if adjusted > 310 then Float.ofScientific 1 false 400
    else if adjusted < -330 then 0
    else if e ≥ 0 then Float.ofScientific m false e.toNat
    else Float.ofScientific m true (-e).toNat

end ApiAudit.Number
