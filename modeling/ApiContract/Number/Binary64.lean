/-
This file holds finite binary64 numbers as exact values: a sign, a significand and a power of two.
Every operation is computed on natural numbers and rounded once, to the nearest representable value,
where a tie goes to the even significand.
-/

namespace ApiContract

/-- The value `± significand * 2 ^ exponent`. -/
structure Binary64 where
  negative : Bool
  significand : Nat
  exponent : Int
  deriving DecidableEq, Repr, Inhabited

/-- The quotient rounded to the nearest natural number; a tie goes to the even one. -/
def roundedQuotient (numerator denominator : Nat) : Nat :=
  let quotient := numerator / denominator
  let twice := 2 * (numerator % denominator)
  if twice < denominator then quotient
  else if denominator < twice then quotient + 1
  else quotient + quotient % 2

namespace Binary64

/-- The least exponent; it also carries zero and the subnormal values. -/
def leastExponent : Int := -1074

/-- The greatest exponent of a finite value. -/
def greatestExponent : Int := 971

def zero (negative : Bool) : Binary64 := ⟨negative, 0, leastExponent⟩

/-- Multiplies the numerator or the denominator, so that the ratio is divided by `2 ^ exponent`. -/
def scaleDown (numerator denominator : Nat) (exponent : Int) : Nat × Nat :=
  if 0 ≤ exponent then (numerator, denominator * Nat.pow 2 exponent.toNat)
  else (numerator * Nat.pow 2 (-exponent).toNat, denominator)

/-- The nearest finite value to a ratio, or `none` past the greatest one. -/
def ofRatio (negative : Bool) (numerator denominator : Nat) : Option Binary64 :=
  if numerator = 0 then some (zero negative)
  else
    let guess := (numerator.log2 : Int) - (denominator.log2 : Int) - 53
    let low := max guess leastExponent
    let scaled := scaleDown numerator denominator low
    let exponent := if scaled.1 < scaled.2 * Nat.pow 2 53 then low else low + 1
    let (above, below) := scaleDown numerator denominator exponent
    let significand := roundedQuotient above below
    let (significand, exponent) :=
      if significand = Nat.pow 2 53 then (Nat.pow 2 52, exponent + 1) else (significand, exponent)
    if greatestExponent < exponent then none else some ⟨negative, significand, exponent⟩

def ofNat (value : Nat) : Option Binary64 := ofRatio false value 1

def ofInt (value : Int) : Option Binary64 := ofRatio (value < 0) value.natAbs 1

def neg (value : Binary64) : Binary64 := { value with negative := !value.negative }

def isZero (value : Binary64) : Bool := value.significand == 0

/-- The magnitude as a ratio of natural numbers. -/
def ratio (value : Binary64) : Nat × Nat :=
  if 0 ≤ value.exponent then (value.significand * Nat.pow 2 value.exponent.toNat, 1)
  else (value.significand, Nat.pow 2 (-value.exponent).toNat)

/-- The signed numerator and the denominator of the exact value. -/
def fraction (value : Binary64) : Int × Nat :=
  let (above, below) := value.ratio
  (if value.negative then -(above : Int) else above, below)

def mul (first second : Binary64) : Option Binary64 :=
  let (above, below) := first.ratio
  let (above', below') := second.ratio
  ofRatio (first.negative != second.negative) (above * above') (below * below')

/-- The quotient; `none` when it is not finite, a zero divisor included. -/
def div (first second : Binary64) : Option Binary64 :=
  if second.isZero then none
  else
    let (above, below) := first.ratio
    let (above', below') := second.ratio
    ofRatio (first.negative != second.negative) (above * below') (below * above')

/-- The remainder of a division toward zero; it has the sign of the dividend. -/
def remainder (first second : Binary64) : Option Binary64 :=
  if second.isZero then none
  else
    let (above, below) := first.ratio
    let (above', below') := second.ratio
    ofRatio first.negative (above * below' % (above' * below)) (below * below')

/-- Whether the exact value is an integer. -/
def isInteger (value : Binary64) : Bool :=
  let (above, below) := value.ratio
  above % below == 0

/-- The integer below or at the exact value. -/
def floor (value : Binary64) : Int :=
  let (above, below) := value.fraction
  above.fdiv below

end Binary64

end ApiContract
