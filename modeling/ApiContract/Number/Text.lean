import ApiContract.Number.Shortest

/-
This file writes binary64 values in decimal. A format fixes which values are written with an
exponent and how; the digits are always the shortest ones.
-/

namespace ApiContract

/-- The choices of a decimal format. -/
structure FloatFormat where
  /-- The least power of ten that is written without an exponent. -/
  least : Int
  /-- The first power of ten that is written with an exponent again. -/
  bound : Option Int
  /-- Whether a positive exponent has a plus sign. -/
  plus : Bool
  /-- Whether an integer is written with one fraction digit. -/
  fraction : Bool

namespace FloatFormat

/-- Documents and messages write values from `1e-5` up to `1e16` without an exponent. -/
def document : FloatFormat := ⟨-5, some 16, true, true⟩

/-- Keys of a mapping differ from documents in the sign of the exponent. -/
def key : FloatFormat := ⟨-5, some 16, false, true⟩

/-- The plain format never has an exponent, and no fraction where none is needed. -/
def plain : FloatFormat := ⟨-400, none, false, false⟩

end FloatFormat

def zeros (count : Nat) : String := String.ofList (List.replicate count '0')

/-- Digits with a point so that the value is `digits * 10 ^ exponent`. -/
def positional (digits : String) (exponent : Int) (fraction : Bool) : String :=
  if 0 ≤ exponent then
    digits ++ zeros exponent.toNat ++ (if fraction then ".0" else "")
  else
    let places := (-exponent).toNat
    let count := digits.length
    if places < count then
      String.ofList (digits.toList.take (count - places)) ++ "." ++
        String.ofList (digits.toList.drop (count - places))
    else "0." ++ zeros (places - count) ++ digits

/-- One digit, the others as a fraction, and the power of ten. -/
def scientific (digits : String) (power : Int) (plus : Bool) : String :=
  let mantissa :=
    match digits.toList with
    | first :: second :: rest => String.ofList (first :: '.' :: second :: rest)
    | short => String.ofList short
  let sign := if power < 0 then "-" else if plus then "+" else ""
  mantissa ++ "e" ++ sign ++ toString power.natAbs

/-- Writes a value in a format. -/
def Binary64.text (value : Binary64) (format : FloatFormat) : String :=
  let sign := if value.negative then "-" else ""
  let decimal := value.shortest
  let digits := toString decimal.digits
  let power := decimal.exponent + digits.length - 1
  let inside := format.least ≤ power ∧ format.bound.all (power < ·)
  if value.isZero ∨ inside then sign ++ positional digits decimal.exponent format.fraction
  else sign ++ scientific digits power format.plus

end ApiContract
