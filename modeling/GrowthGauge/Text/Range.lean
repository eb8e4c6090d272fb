namespace GrowthGauge

/-! ## Ranges of code points

Character properties of Unicode are tables of inclusive ranges in rising order.
A character has the property when one of the ranges holds its code point. -/

abbrev CodeRanges := List (Nat × Nat)

def CodeRanges.contains (ranges : CodeRanges) (character : Char) : Bool :=
  ranges.any fun range =>
    range.1 ≤ character.toNat && character.toNat ≤ range.2

/-- The number of code points in the ranges. -/
def CodeRanges.size (ranges : CodeRanges) : Nat :=
  ranges.foldl (fun total range => total + (range.2 + 1 - range.1)) 0

/-- Each range is in order and ends before the next one begins. -/
def CodeRanges.isRising : CodeRanges → Bool
  | [] => true
  | [range] => range.1 ≤ range.2
  | range :: next :: rest =>
      range.1 ≤ range.2 && range.2 < next.1 && isRising (next :: rest)

end GrowthGauge
