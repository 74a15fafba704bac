/-!
# Text/Surrogate — lone surrogates inside texts

A text may hold a **lone surrogate**: a code unit from `U+D800` to `U+DFFF` that is no half
of a pair (a JSON document may write one as `\ud800`).  Such a unit is no character, so a text
here holds it as a stand-in character of the last plane: the unit `u` is the character
`u + 0x100000` (`U+10D800` to `U+10DFFF`).

* `ofUnit` gives the stand-in of a unit, `unit?` the unit a character stands for;
* `unit?_ofUnit` says the second undoes the first.

Whatever shows a text (its quoted literal, its JSON form) writes a stand-in as the unit it
stands for, and writing a text as UTF-8 refuses it.
-/

namespace ApiAudit.Text

/-- The distance from a surrogate unit to its stand-in character. -/
def surrogateShift : Nat := 0x100000

/-- Whether a number is a surrogate code unit. -/
def isSurrogateUnit (u : Nat) : Bool := 0xD800 ≤ u && u ≤ 0xDFFF

/-- **The stand-in character of a surrogate unit.** -/
def ofUnit (u : Nat) : Char := Char.ofNat (u + surrogateShift)

/-- **The surrogate unit a character stands for**, if it is a stand-in. -/
def unit? (c : Char) : Option Nat :=
  if isSurrogateUnit (c.toNat - surrogateShift) && surrogateShift ≤ c.toNat then
    some (c.toNat - surrogateShift)
  else none

/-- Whether a character stands for a lone surrogate. -/
def isStandIn (c : Char) : Bool := (unit? c).isSome

/-- The code of a stand-in is its unit moved up by the shift. -/
theorem toNat_ofUnit (u : Nat) (h : isSurrogateUnit u = true) :
    (ofUnit u).toNat = u + surrogateShift := by
  simp only [isSurrogateUnit, Bool.and_eq_true, decide_eq_true_eq] at h
  have hv : (u + surrogateShift).isValidChar := by
    unfold Nat.isValidChar surrogateShift
    omega
  rw [ofUnit, Char.ofNat, dif_pos hv]
  rfl

/-- A stand-in gives back its unit. -/
theorem unit?_ofUnit (u : Nat) (h : isSurrogateUnit u = true) : unit? (ofUnit u) = some u := by
  rw [unit?, toNat_ofUnit u h, Nat.add_sub_cancel, h]
  simp [surrogateShift]

example : unit? (ofUnit 0xD800) = some 0xD800 := by decide
example : unit? 'a' = none := by decide

end ApiAudit.Text
