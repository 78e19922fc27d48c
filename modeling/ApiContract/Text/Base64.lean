/-
This file decodes bytes that are written as letters, six bits each. The padding is required, and
bits that are left over are zero.
-/

namespace ApiContract.Text

/-- The six bits of a letter. -/
def sixBits? (letter : Char) : Option Nat :=
  if 'A' ≤ letter ∧ letter ≤ 'Z' then some (letter.toNat - 65)
  else if 'a' ≤ letter ∧ letter ≤ 'z' then some (letter.toNat - 71)
  else if '0' ≤ letter ∧ letter ≤ '9' then some (letter.toNat + 4)
  else if letter = '+' then some 62
  else if letter = '/' then some 63
  else none

/-- The bytes of a text; four letters make three bytes, and padding stands only at the end. -/
def decodeBase64 : List Char → Option (List Nat)
  | [] => some []
  | [first, second, '=', '='] => do
      let bits := (← sixBits? first) * 64 + (← sixBits? second)
      if bits % 16 = 0 then some [bits / 16] else none
  | [first, second, third, '='] => do
      let bits := ((← sixBits? first) * 64 + (← sixBits? second)) * 64 + (← sixBits? third)
      if bits % 4 = 0 then some [bits / 1024, bits / 4 % 256] else none
  | first :: second :: third :: fourth :: rest => do
      let bits :=
        (((← sixBits? first) * 64 + (← sixBits? second)) * 64 + (← sixBits? third)) * 64 +
          (← sixBits? fourth)
      return bits / 65536 :: bits / 256 % 256 :: bits % 256 :: (← decodeBase64 rest)
  | _ => none

end ApiContract.Text
