/-!
# Text/Ranges — membership in a sorted table of character ranges

The character tables of this library are sorted arrays of disjoint closed ranges of code points.
`inRanges` looks a code point up by halving the search window; `rangeOf?` finds the range
that holds it.
-/

namespace ApiAudit.Text

/-- Whether `n` lies in one of the sorted, disjoint closed ranges of `table`, by halving the
search window `[lo, hi)`; `fuel` bounds the halvings. -/
def inRanges (table : Array (Nat × Nat)) (n : Nat) : Bool :=
  go 64 0 table.size
where
  go : Nat → Nat → Nat → Bool
    | 0, _, _ => false
    | fuel + 1, lo, hi =>
      if lo < hi then
        let m := (lo + hi) / 2
        match table[m]? with
        | some (a, b) =>
          if n < a then go fuel lo m
          else if b < n then go fuel (m + 1) hi
          else true
        | none => false
      else false

/-- The range of the sorted, disjoint closed ranges of `table` that holds `n`, by halving the
search window `[lo, hi)` as `inRanges` does. -/
def rangeOf? (table : Array (Nat × Nat)) (n : Nat) : Option (Nat × Nat) :=
  go 64 0 table.size
where
  go : Nat → Nat → Nat → Option (Nat × Nat)
    | 0, _, _ => none
    | fuel + 1, lo, hi =>
      if lo < hi then
        let m := (lo + hi) / 2
        match table[m]? with
        | some (a, b) =>
          if n < a then go fuel lo m
          else if b < n then go fuel (m + 1) hi
          else some (a, b)
        | none => none
      else none

example : inRanges #[(1, 3), (7, 9)] 8 = true := by decide
example : inRanges #[(1, 3), (7, 9)] 5 = false := by decide
example : rangeOf? #[(1, 3), (7, 9)] 8 = some (7, 9) := by decide

end ApiAudit.Text
