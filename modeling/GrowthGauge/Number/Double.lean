namespace GrowthGauge

/-! ## Double-precision numbers

A finite number is a sign, a significand below 2^53 and a power of two. The
significand is at least 2^52 unless the exponent is the least one, so each value
other than zero has one form. -/

inductive Double
  | finite (negative : Bool) (significand : Nat) (exponent : Int)
  | infinite (negative : Bool)
  | undefined
deriving Repr, DecidableEq

namespace Double

def significandLimit : Nat := Nat.pow 2 53

def leastExponent : Int := -1074

def greatestExponent : Int := 971

def zero (negative : Bool) : Double :=
  .finite negative 0 leastExponent

/-- The quotient rounded to the nearest integer, a half to the even one. -/
def roundQuotient (numerator denominator : Nat) : Nat :=
  let quotient := numerator / denominator
  let twice := 2 * (numerator % denominator)
  if twice < denominator || (twice == denominator && quotient % 2 == 0) then
    quotient
  else
    quotient + 1

example : roundQuotient 5 2 = 2 := rfl

example : roundQuotient 7 2 = 4 := rfl

/-- `numerator / denominator` divided by a power of two and rounded. -/
def scaledQuotient (numerator denominator : Nat) (exponent : Int) : Nat :=
  roundQuotient (numerator * Nat.pow 2 (-exponent).toNat)
    (denominator * Nat.pow 2 exponent.toNat)

/-- The power of two in which the significand of a positive quotient is counted.
The first guess is at most one too small. -/
def exponentOf (numerator denominator : Nat) : Int :=
  let guess := max ((numerator.log2 : Int) - denominator.log2 - 53) leastExponent
  let tooLarge :=
    significandLimit * denominator * Nat.pow 2 guess.toNat ≤
      numerator * Nat.pow 2 (-guess).toNat
  if tooLarge then guess + 1 else guess

/-- The double nearest to a positive quotient. -/
def ofQuotient (negative : Bool) (numerator denominator : Nat) : Double :=
  let exponent := exponentOf numerator denominator
  let significand := scaledQuotient numerator denominator exponent
  let (significand, exponent) :=
    if significand == significandLimit then
      (significandLimit / 2, exponent + 1)
    else
      (significand, exponent)
  if greatestExponent < exponent then
    .infinite negative
  else
    .finite negative significand exponent

/-- The double nearest to `digits` times a power of ten. Numbers far outside the
range are settled by their magnitude alone. -/
def ofDecimal (negative : Bool) (digits : Nat) (power : Int) : Double :=
  if digits == 0 then
    zero negative
  else
    let magnitude := (Nat.toDigits 10 digits).length + power
    if 400 < magnitude then
      .infinite negative
    else if magnitude < -400 then
      zero negative
    else
      ofQuotient negative (digits * Nat.pow 10 power.toNat) (Nat.pow 10 (-power).toNat)

example : ofDecimal false 1 0 = .finite false (2 ^ 52) (-52) := by decide +kernel

example : ofDecimal false 5 (-324) = .finite false 1 (-1074) := by decide +kernel

example : ofDecimal true 1 400 = .infinite true := by decide +kernel

/-- The integer that a double is equal to. -/
def toInt? : Double → Option Int
  | .finite negative significand exponent =>
      let scaled := significand * Nat.pow 2 exponent.toNat
      let divisor := Nat.pow 2 (-exponent).toNat
      if scaled % divisor == 0 then
        let size : Int := (scaled / divisor : Nat)
        some (if negative then -size else size)
      else
        none
  | _ => none

example : (ofDecimal false 20 (-1)).toInt? = some 2 := by decide +kernel

example : (ofDecimal false 25 (-1)).toInt? = none := by decide +kernel

def isFinite : Double → Bool
  | .finite .. => true
  | _ => false

def isZero : Double → Bool
  | .finite _ significand _ => significand == 0
  | _ => false

end Double

end GrowthGauge
