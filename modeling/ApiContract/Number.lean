import ApiContract.Number.Text

/-
This file joins integers and binary64 values into the numbers of a document. The two stay apart when
they are written, and compare by their exact values.
-/

namespace ApiContract

/-- A number of a document. -/
inductive Number where
  | integer (value : Int)
  | float (value : Binary64)
  deriving DecidableEq, Repr, Inhabited

namespace Number

/-- The exact value as a signed numerator and a denominator. -/
def fraction : Number → Int × Nat
  | integer value => (value, 1)
  | float value => value.fraction

/-- Compares exact values. -/
def lt (first second : Number) : Bool :=
  let (above, below) := first.fraction
  let (above', below') := second.fraction
  above * below' < above' * below

/-- Whether two numbers have one value. -/
def sameValue (first second : Number) : Bool :=
  let (above, below) := first.fraction
  let (above', below') := second.fraction
  above * below' == above' * below

/-- Whether two numbers have one value and are both integers or both floats. -/
def same : Number → Number → Bool
  | integer first, integer second => first == second
  | float first, float second => sameValue (float first) (float second)
  | _, _ => false

/-- Whether the value is an integer, however it is written. -/
def isInteger : Number → Bool
  | integer _ => true
  | float value => value.isInteger

/-- The nearest binary64 value. -/
def toBinary64 : Number → Binary64
  | integer value => (Binary64.ofInt value).getD (Binary64.zero false)
  | float value => value

def text : Number → String
  | integer value => toString value
  | float value => value.text .document

end Number

end ApiContract
