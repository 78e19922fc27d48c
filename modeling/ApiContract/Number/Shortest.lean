import ApiContract.Number.Binary64

/-
This file finds the shortest decimal that reads back as a given binary64 value. Among the decimals
with the fewest digits the nearest one is taken.
-/

namespace ApiContract

/-- The value `digits * 10 ^ exponent`. -/
structure Decimal where
  digits : Nat
  exponent : Int
  deriving DecidableEq, Repr

namespace Decimal

/-- Drops the last digits that are zero; `fuel` bounds their number. -/
def trimmed : Nat → Decimal → Decimal
  | 0, decimal => decimal
  | fuel + 1, decimal =>
      if decimal.digits ≠ 0 ∧ decimal.digits % 10 = 0 then
        trimmed fuel ⟨decimal.digits / 10, decimal.exponent + 1⟩
      else decimal

end Decimal

namespace Binary64

/-- The interval of reals that round to a value, and the value itself, in one common unit. -/
structure Interval where
  low : Nat
  value : Nat
  high : Nat
  unit : Nat
  closed : Bool

/-- The bounds lie half way to the neighbours; the lower neighbour is nearer below a power of two.
-/
def interval (value : Binary64) : Interval :=
  let narrow := value.significand = Nat.pow 2 52 ∧ leastExponent < value.exponent
  let low := 4 * value.significand - (if narrow then 1 else 2)
  let middle := 4 * value.significand
  let high := 4 * value.significand + 2
  let exponent := value.exponent - 2
  let closed := value.significand % 2 == 0
  if 0 ≤ exponent then
    let factor := Nat.pow 2 exponent.toNat
    ⟨low * factor, middle * factor, high * factor, 1, closed⟩
  else ⟨low, middle, high, Nat.pow 2 (-exponent).toNat, closed⟩

def Interval.contains (interval : Interval) (above below : Nat) : Bool :=
  let point := above * interval.unit
  if interval.closed then interval.low * below ≤ point && point ≤ interval.high * below
  else interval.low * below < point && point < interval.high * below

/-- The grid of multiples of `10 ^ exponent`, as a ratio for one step. -/
def step (exponent : Int) : Nat × Nat :=
  if 0 ≤ exponent then (Nat.pow 10 exponent.toNat, 1) else (1, Nat.pow 10 (-exponent).toNat)

/-- The nearest of the two neighbours on a grid that lie in the interval. -/
def Interval.onGrid (interval : Interval) (exponent : Int) : Option Decimal :=
  let (above, below) := step exponent
  let lower := interval.value * below / (interval.unit * above)
  let upper := lower + 1
  let rest := interval.value * below % (interval.unit * above)
  let lowerIn := lower ≠ 0 ∧ interval.contains (lower * above) below
  let upperIn : Bool := interval.contains (upper * above) below
  if lowerIn ∧ upperIn then
    let twice := 2 * rest
    if twice < interval.unit * above then some ⟨lower, exponent⟩
    else if interval.unit * above < twice then some ⟨upper, exponent⟩
    else some ⟨lower + lower % 2, exponent⟩
  else if lowerIn then some ⟨lower, exponent⟩
  else if upperIn then some ⟨upper, exponent⟩
  else none

/-- Tries one digit more each time; seventeen digits always suffice. -/
def Interval.search (interval : Interval) : Nat → Int → Option Decimal
  | 0, _ => none
  | more + 1, exponent =>
      match interval.onGrid exponent with
      | some decimal => some decimal
      | none => interval.search more (exponent - 1)

/-- Raises or lowers a guess of the greatest power of ten at or below a ratio. -/
def leadingPower : Nat → Nat → Nat → Int → Int
  | 0, _, _, guess => guess
  | fuel + 1, numerator, denominator, guess =>
      let (above, below) := step guess
      let (above', below') := step (guess + 1)
      if numerator * below < denominator * above then
        leadingPower fuel numerator denominator (guess - 1)
      else if denominator * above' ≤ numerator * below' then
        leadingPower fuel numerator denominator (guess + 1)
      else guess

/-- The shortest decimal that reads back as the magnitude of a value. -/
def shortest (value : Binary64) : Decimal :=
  if value.isZero then ⟨0, 0⟩
  else
    let (above, below) := value.ratio
    let guess := (((above.log2 : Int) - (below.log2 : Int)) * 30103).fdiv 100000
    let power := leadingPower 4 above below guess
    match value.interval.search 18 power with
    | some decimal => decimal.trimmed 20
    | none => ⟨0, 0⟩

end Binary64

end ApiContract
