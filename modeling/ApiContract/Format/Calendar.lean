/-
This file decides which texts are dates, times and instants. A time always has an offset.
-/

namespace ApiContract.Format

/-- The value of a digit. The six characters after the digits count on from ten, so that a field may
be written with them too. -/
def fieldDigit? (character : Char) : Option Nat :=
  if '0' ≤ character ∧ character ≤ '?' then some (character.toNat - 48) else none

/-- The number of two digits. -/
def twoDigits? : List Char → Option Nat
  | [first, second] => do return (← fieldDigit? first) * 10 + (← fieldDigit? second)
  | _ => none

def isLeapYear (year : Nat) : Bool := year % 4 == 0 && (year % 100 != 0 || year % 400 == 0)

def daysInMonth (year month : Nat) : Nat :=
  match month with
  | 1 | 3 | 5 | 7 | 8 | 10 | 12 => 31
  | 4 | 6 | 9 | 11 => 30
  | 2 => if isLeapYear year then 29 else 28
  | _ => 0

/-- A date is a year of four digits, a month and a day of that month. -/
def isDate (text : List Char) : Bool :=
  match text with
  | [y1, y2, y3, y4, '-', m1, m2, '-', d1, d2] =>
      match twoDigits? [y1, y2], twoDigits? [y3, y4], twoDigits? [m1, m2], twoDigits? [d1, d2] with
      | some century, some year, some month, some day =>
          1 ≤ day && day ≤ daysInMonth (century * 100 + year) month
      | _, _, _, _ => false
  | _ => false

/-- The offset of a time in minutes. -/
def offset? : List Char → Option Int
  | ['Z'] => some 0
  | ['z'] => some 0
  | [sign, h1, h2, ':', m1, m2] => do
      let hours ← twoDigits? [h1, h2]
      let minutes ← twoDigits? [m1, m2]
      if 23 < hours ∨ 59 < minutes then none
      else if sign = '+' then some (hours * 60 + minutes)
      else if sign = '-' then some (-(hours * 60 + minutes : Int))
      else none
  | _ => none

/-- What follows the seconds: a fraction with at least one digit, if any, and the offset. -/
def skipFraction : List Char → Option (List Char)
  | '.' :: digit :: rest => if digit.isDigit then some (rest.dropWhile Char.isDigit) else none
  | ['.'] => none
  | other => some other

/-- A second 60 stands only at the end of a day of the zero offset. -/
def isTime (text : List Char) : Bool :=
  match text with
  | h1 :: h2 :: ':' :: m1 :: m2 :: ':' :: s1 :: s2 :: rest =>
      match twoDigits? [h1, h2], twoDigits? [m1, m2], twoDigits? [s1, s2],
          skipFraction rest >>= offset? with
      | some hour, some minute, some second, some offset =>
          let leap := ((hour * 60 + minute : Int) - offset) % 1440 == 1439
          hour ≤ 23 && minute ≤ 59 && (second ≤ 59 || (second == 60 && leap))
      | _, _, _, _ => false
  | _ => false

/-- An instant is a date and a time around the first letter `T`. -/
def isInstant (text : List Char) : Bool :=
  let isMark := fun character : Char => character == 'T' || character == 't'
  match text.dropWhile (!isMark ·) with
  | _ :: time => isDate (text.takeWhile (!isMark ·)) && isTime time
  | [] => false

end ApiContract.Format
