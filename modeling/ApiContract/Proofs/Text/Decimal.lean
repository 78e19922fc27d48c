import ApiContract.Text.Basic
import Mathlib.Tactic

/-
This file proves that a number that is written in decimal is read again.
-/

namespace ApiContract

/-- A number is written in digits. -/
theorem isDigit_of_mem_toString (number : Nat) (character : Char)
    (member : character ∈ (toString number).toList) : character.isDigit = true := by
  rw [Nat.toString_eq_repr, Nat.toList_repr] at member
  exact Nat.isDigit_of_mem_toDigits (by decide) (by decide) member

namespace Text

/-- The digits of a number, read one after the other, make the number. -/
theorem foldl_toString (number : Nat) :
    (toString number).toList.foldl (fun value digit => value * 10 + (digit.toNat - 48)) 0 =
      number := by
  have read : Nat.ofDigitChars 10 (Nat.toDigits 10 number) 0 = number :=
    Nat.ofDigitChars_ten_toDigits
  rw [Nat.toString_eq_repr, Nat.toList_repr]
  simpa only [Nat.ofDigitChars, Nat.mul_comm] using! read

/-- A number of 64 bits that is written in decimal is read again. -/
theorem unsigned?_toString (number : Nat) (fits : number < Nat.pow 2 64) :
    unsigned? (toString number) = some number := by
  have digits := isDigit_of_mem_toString number
  have value := foldl_toString number
  have present : (toString number).toList.isEmpty = false := by simp
  have allDigits : (toString number).toList.all Char.isDigit = true := List.all_eq_true.mpr digits
  unfold unsigned?
  dsimp only
  split
  · next rest written =>
      have isDigit := digits '+' (by rw [written]; exact .head _)
      cases isDigit
  · simp only [present, allDigits, value, fits]
    simp

end Text

end ApiContract
