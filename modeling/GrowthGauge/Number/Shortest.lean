import GrowthGauge.Number.Double

namespace GrowthGauge

/-! ## The shortest text of a number

A double is written with the fewest significant digits that read back as the
same double. Of two texts of that length the nearer one is taken, and the even
one when both are equally near. -/

/-- A positive finite double with the ends of the interval that rounds to it,
as numerators over one denominator. The ends belong to the interval when the
significand is even. -/
structure Neighborhood where
  lower : Nat
  value : Nat
  upper : Nat
  denominator : Nat
  closed : Bool

namespace Neighborhood

def ofParts (significand : Nat) (exponent : Int) : Neighborhood :=
  let scale := Nat.pow 2 (exponent - 2).toNat
  let denominator := Nat.pow 2 (2 - exponent).toNat
  let atPowerOfTwo :=
    2 * significand == Double.significandLimit && Double.leastExponent < exponent
  let below := if atPowerOfTwo then 1 else 2
  { lower := (4 * significand - below) * scale
    value := 4 * significand * scale
    upper := (4 * significand + 2) * scale
    denominator
    closed := significand % 2 == 0 }

/-- The decimal `digits` times a power of ten reads back as the double. -/
def readsBack (around : Neighborhood) (digits : Nat) (power : Int) : Bool :=
  let point := digits * Nat.pow 10 power.toNat * around.denominator
  let unit := Nat.pow 10 (-power).toNat
  if around.closed then
    around.lower * unit ≤ point && point ≤ around.upper * unit
  else
    around.lower * unit < point && point < around.upper * unit

/-- The neighbor of the value on the grid of a power of ten that reads back, the
nearer one if both do. -/
def onGrid? (around : Neighborhood) (power : Int) : Option Nat :=
  let step := Nat.pow 10 power.toNat * around.denominator
  let scaled := around.value * Nat.pow 10 (-power).toNat
  let floor := scaled / step
  let twice := 2 * (scaled % step)
  let floorFirst := twice < step || (twice == step && floor % 2 == 0)
  let candidates := if floorFirst then [floor, floor + 1] else [floor + 1, floor]
  candidates.find? fun digits => digits != 0 && around.readsBack digits power

/-- The exponent of the value's leading decimal digit, found by walking down
from a bound above it. -/
def leadingPower (around : Neighborhood) : Nat → Int → Int
  | 0, power => power
  | steps + 1, power =>
      if Nat.pow 10 power.toNat * around.denominator ≤
          around.value * Nat.pow 10 (-power).toNat then
        power
      else
        around.leadingPower steps (power - 1)

/-- The first grid with a hit, from one significant digit to seventeen. -/
def shortest (around : Neighborhood) : Nat × Int :=
  let leading := around.leadingPower 640 309
  let grids := (List.range 17).map fun fewer : Nat => leading - (fewer : Int)
  let hit? := grids.findSome? fun power =>
    (around.onGrid? power).map fun digits => (digits, power)
  hit?.getD (0, 0)

end Neighborhood

/-! The layout of a number's text: positional notation while the leading digit's
exponent is from -4 to 15, and always a fraction there; otherwise one digit
before the point and an exponent with a sign and two digits or more. -/

namespace Double

def trimZeros (digits : List Char) : List Char :=
  (digits.reverse.dropWhile (· == '0')).reverse

def exponentText (exponent : Int) : String :=
  let digits := Nat.repr exponent.natAbs
  let sign := if exponent < 0 then "-" else "+"
  sign ++ (if exponent.natAbs < 10 then "0" ++ digits else digits)

/-- `digits` with the decimal point after the first `point` of them. -/
def positional (digits : List Char) (point : Int) : List Char :=
  if point ≤ 0 then
    ['0', '.'] ++ List.replicate (-point).toNat '0' ++ digits
  else
    let whole := digits.take point.toNat
    let fraction := digits.drop point.toNat
    whole ++ List.replicate (point.toNat - digits.length) '0' ++
      '.' :: (if fraction.isEmpty then ['0'] else fraction)

def scientific (digits : List Char) (point : Int) : List Char :=
  let fraction := digits.drop 1
  digits.take 1 ++ (if fraction.isEmpty then [] else '.' :: fraction) ++
    'e' :: (exponentText (point - 1)).toList

def unsignedText (significand : Nat) (exponent : Int) : String :=
  if significand == 0 then
    "0.0"
  else
    let (digits, power) := (Neighborhood.ofParts significand exponent).shortest
    let written := Nat.toDigits 10 digits
    let point := (written.length : Int) + power
    let significant := trimZeros written
    String.ofList (if -4 < point && point ≤ 16 then
      positional significant point
    else
      scientific significant point)

def text : Double → String
  | .finite negative significand exponent =>
      (if negative then "-" else "") ++ unsignedText significand exponent
  | .infinite negative => if negative then "-inf" else "inf"
  | .undefined => "nan"

example : (ofDecimal false 25 (-1)).text = "2.5" := by decide +kernel

example : (ofDecimal true 0 0).text = "-0.0" := by decide +kernel

example : (ofDecimal false 1 (-7)).text = "1e-07" := by decide +kernel

example : (ofDecimal false 1 16).text = "1e+16" := by decide +kernel

example : (ofDecimal false 1 (-4)).text = "0.0001" := by decide +kernel

end Double

end GrowthGauge
