import ApiContract.Text.Basic
import ApiContract.Yaml.Basic

/-
This file finds the values that the texts of scalars stand for. A plain scalar without a tag is
null, a boolean, a number or else a text; a tag asks for one kind.
-/

namespace ApiContract.Yaml

/-- What is wrong with a node, apart from its place. -/
inductive NodeProblem where
  | wideInteger (value : Int)
  | wrongScalar (text expected : String)
  | repeatedKey (key : Node)

def NodeProblem.message : NodeProblem → String
  | wideInteger value =>
      "invalid type: integer \x60" ++ toString value ++ "\x60 as " ++
        (if value < 0 then "i128" else "u128") ++ ", expected any YAML value"
  | wrongScalar text expected =>
      "invalid value: string " ++ Text.visible text ++ ", expected " ++ expected
  | repeatedKey key =>
      "duplicate entry " ++
        match key with
        | .null => "with null key"
        | .bool value => "with key \x60" ++ toString value ++ "\x60"
        | .number value => "with key " ++ value.text
        | .text value => "with key " ++ Text.visible value
        | _ => "in YAML map"

namespace Scalar

def isNull (text : String) : Bool := ["null", "Null", "NULL", "~"].contains text

def bool? (text : String) : Option Bool :=
  if ["true", "True", "TRUE"].contains text then some true
  else if ["false", "False", "FALSE"].contains text then some false
  else none

def digitOf (character : Char) : Nat :=
  if character.isDigit then character.toNat - 48
  else if 'a' ≤ character ∧ character ≤ 'z' then character.toNat - 87
  else if 'A' ≤ character ∧ character ≤ 'Z' then character.toNat - 55
  else 36

/-- The number with some digits. -/
def digits? (base : Nat) (digits : List Char) : Option Nat :=
  if digits.isEmpty || digits.any fun digit => base ≤ digitOf digit then none
  else some (digits.foldl (fun value digit => value * base + digitOf digit) 0)

/-- The number after a mark of its base. -/
def basedDigits? : List Char → Option Nat
  | '0' :: 'x' :: digits => digits? 16 digits
  | '0' :: 'o' :: digits => digits? 8 digits
  | '0' :: 'b' :: digits => digits? 2 digits
  | _ => none

/-- Whether a text is a zero before further digits, which is no number. -/
def hasLeadingZero : List Char → Bool
  | '0' :: digit :: rest => (digit :: rest).all Char.isDigit
  | _ => false

/-- A decimal number, or one with a mark of its base. -/
def natural? (characters : List Char) : Option Nat :=
  basedDigits? characters <|>
    if hasLeadingZero characters then none else digits? 10 characters

/-- The integer of a text, if it is below the given bounds. -/
def integer? (characters : List Char) : Option Int :=
  match characters with
  | '-' :: rest => (natural? rest).map fun value => -(value : Int)
  | '+' :: rest => (natural? rest).map fun value => (value : Int)
  | other => (natural? other).map fun value => (value : Int)

/-- The value of digits times a power of ten; past the greatest finite value there is none. -/
def decimal? (negative : Bool) (digits : List Char) (exponent : Int) : Option Binary64 :=
  let significant := digits.dropWhile (· == '0')
  let value := significant.foldl (fun (value : Nat) digit => value * 10 + digitOf digit) 0
  let power := (significant.length : Int) + exponent
  if significant.isEmpty ∨ power < -400 then some (Binary64.zero negative)
  else if 400 < power then none
  else if 0 ≤ exponent then Binary64.ofRatio negative (value * Nat.pow 10 exponent.toNat) 1
  else Binary64.ofRatio negative value (Nat.pow 10 (-exponent).toNat)

/-- The exponent after a number, which is zero if there is none. -/
def exponent? : List Char → Option Int
  | [] => some 0
  | mark :: rest =>
      if mark = 'e' ∨ mark = 'E' then
        match rest with
        | '-' :: digits => (digits? 10 digits).map fun value => -(value : Int)
        | '+' :: digits => (digits? 10 digits).map fun value => (value : Int)
        | digits => (digits? 10 digits).map fun value => (value : Int)
      else none

/-- A decimal number with an optional fraction and an optional exponent. -/
def unsignedFloat? (negative : Bool) (characters : List Char) : Option Binary64 :=
  let whole := characters.takeWhile Char.isDigit
  let rest := characters.dropWhile Char.isDigit
  let (fraction, rest) :=
    match rest with
    | '.' :: rest => (rest.takeWhile Char.isDigit, rest.dropWhile Char.isDigit)
    | other => ([], other)
  if whole.isEmpty ∧ fraction.isEmpty then none
  else
    match exponent? rest with
    | none => none
    | some exponent => decimal? negative (whole ++ fraction) (exponent - fraction.length)

def float? (text : String) : Option Numeral :=
  if [".inf", ".Inf", ".INF", "+.inf", "+.Inf", "+.INF"].contains text then some (.infinity false)
  else if ["-.inf", "-.Inf", "-.INF"].contains text then some (.infinity true)
  else if [".nan", ".NaN", ".NAN"].contains text then some .notANumber
  else
    match text.toList with
    | '-' :: rest => (unsignedFloat? true rest).map .float
    | '+' :: rest => (unsignedFloat? false rest).map .float
    | other => (unsignedFloat? false other).map .float

/-- Whether a text is digits that start with a zero, after an optional sign. -/
def isZeroPadded : List Char → Bool
  | '-' :: rest => hasLeadingZero rest
  | '+' :: rest => hasLeadingZero rest
  | other => hasLeadingZero other

/-- The integer of a text. One that fits 64 bits is a number, a wider one is a problem up to 128
bits, and beyond that the text is no integer. -/
def wideInteger? (text : String) : Option (Except NodeProblem Node) :=
  match integer? text.toList with
  | none => none
  | some value =>
      if -(Nat.pow 2 63) ≤ value ∧ value < Nat.pow 2 64 then some (.ok (.number (.integer value)))
      else if -(Nat.pow 2 127) ≤ value ∧ value < Nat.pow 2 128 then
        some (.error (.wideInteger value))
      else none

/-- The value of a plain scalar without a tag. -/
def plainValue (text : String) : Except NodeProblem Node :=
  if text.isEmpty || isNull text then .ok .null
  else
    match bool? text with
    | some value => .ok (.bool value)
    | none =>
        match wideInteger? text with
        | some result => result
        | none =>
            match if isZeroPadded text.toList then none else float? text with
            | some value => .ok (.number value)
            | none => .ok (.text text)

/-- The value of a scalar. The tags of the core kinds ask for one of them; any other tag with a
leading exclamation mark leaves a plain scalar as it is, and the rest make a text. -/
def value (tag : Option String) (text : String) (plain : Bool) : Except NodeProblem Node :=
  match tag with
  | none => if plain then plainValue text else .ok (.text text)
  | some "tag:yaml.org,2002:bool" =>
      match bool? text with
      | some value => .ok (.bool value)
      | none => .error (.wrongScalar text "a boolean")
  | some "tag:yaml.org,2002:int" =>
      match wideInteger? text with
      | some result => result
      | none => .error (.wrongScalar text "an integer")
  | some "tag:yaml.org,2002:float" =>
      match float? text with
      | some value => .ok (.number value)
      | none => .error (.wrongScalar text "a float")
  | some "tag:yaml.org,2002:null" =>
      if isNull text then .ok .null else .error (.wrongScalar text "null")
  | some other => if Text.startsWith other "!" && plain then plainValue text else .ok (.text text)

end Scalar

end ApiContract.Yaml
