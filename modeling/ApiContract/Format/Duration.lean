import ApiContract.Format.Address
import ApiContract.Format.Host

/-
This file decides which texts are durations and unique identifiers.
-/

namespace ApiContract.Format

/-- The place of a unit among the units of dates, or among those of times. -/
def unitRank? (isTime : Bool) (letter : Char) : Option Nat :=
  (if isTime then "HMS" else "YMWD").toList.findIdx? (· == letter)

/-- Reads amounts with their units, which follow in order. Weeks stand alone. The arguments are
whether the units are those of times, the rank from which on units may follow, whether something
came before, and whether that was weeks. The number bounds the steps. -/
def areAmounts : Nat → Bool → Nat → Bool → Bool → List Char → Bool
  | 0, _, _, _, _, _ => false
  | bound + 1, isTime, rank, hasAmount, hasWeeks, text =>
      match text with
      | [] => hasAmount && (!isTime || 0 < rank)
      | 'T' :: rest => !isTime && areAmounts bound true 0 hasAmount hasWeeks rest
      | _ =>
          let rest := text.dropWhile Char.isDigit
          match text.head?.any Char.isDigit, rest with
          | true, letter :: rest =>
              match unitRank? isTime letter with
              | none => false
              | some found =>
                  rank ≤ found && !hasWeeks && !(letter == 'W' && hasAmount) &&
                    areAmounts bound isTime (found + 1) true (letter == 'W') rest
          | _, _ => false

/-- A duration is the letter `P` and amounts of time, those shorter than a day behind a `T`. -/
def isDuration (text : List Char) : Bool :=
  match text with
  | 'P' :: rest => areAmounts (rest.length + 1) false 0 false false rest
  | _ => false

/-- A unique identifier has five groups of hexadecimal digits with hyphens between them. -/
def isUniqueIdentifier (text : List Char) : Bool :=
  let parts := splitOn (· == '-') text
  parts.map List.length == [8, 4, 4, 4, 12] && parts.all (·.all isHexDigit)

end ApiContract.Format
