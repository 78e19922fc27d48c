/-
This file decides which texts are network addresses of the fourth and the sixth version.
-/

namespace ApiContract.Format

def isHexDigit (character : Char) : Bool :=
  character.isDigit || ('a' ≤ character && character ≤ 'f') || ('A' ≤ character && character ≤ 'F')

/-- Reads one octet: a number up to 255 without a leading zero. -/
def readOctet (text : List Char) : Option (List Char) :=
  let digits := text.takeWhile Char.isDigit
  let value := digits.foldl (fun (value : Nat) digit => value * 10 + (digit.toNat - 48)) 0
  if digits.isEmpty ∨ 3 < digits.length ∨ 255 < value then none
  else if 1 < digits.length ∧ digits.head? = some '0' then none
  else some (text.drop digits.length)

def readMark (mark : Char) : List Char → Option (List Char)
  | [] => none
  | character :: rest => if character = mark then some rest else none

/-- Reads an address of the fourth version. -/
def readVersion4 (text : List Char) : Option (List Char) := do
  let rest ← readOctet text
  let rest ← readOctet (← readMark '.' rest)
  let rest ← readOctet (← readMark '.' rest)
  readOctet (← readMark '.' rest)

def isVersion4 (text : List Char) : Bool := readVersion4 text == some []

/-- Reads one group of at most four hexadecimal digits. -/
def readGroup (text : List Char) : Option (List Char) :=
  let digits := text.takeWhile isHexDigit
  if digits.isEmpty ∨ 4 < digits.length then none else some (text.drop digits.length)

/-- Reads groups with colons between them, at most a number of them. The last two groups may be an
address of the fourth version; the second result tells so. -/
def readGroups : Nat → Bool → Nat → List Char → Nat × Bool × List Char
  | 0, _, count, text => (count, false, text)
  | room + 1, first, count, text =>
      match if first then some text else readMark ':' text with
      | none => (count, false, text)
      | some start =>
          match if 1 ≤ room then readVersion4 start else none with
          | some rest => (count + 2, true, rest)
          | none =>
              match readGroup start with
              | some rest => readGroups room false (count + 1) rest
              | none => (count, false, text)

/-- An address has eight groups, or fewer around one double colon. -/
def isVersion6 (text : List Char) : Bool :=
  let (count, quad, rest) := readGroups 8 true 0 text
  if count = 8 then rest.isEmpty
  else if quad then false
  else
    match rest with
    | ':' :: ':' :: rest =>
        let (_, _, rest) := readGroups (8 - (count + 1)) true 0 rest
        rest.isEmpty
    | _ => false

end ApiContract.Format
