/-
This file writes labels of host names in ASCII. The ASCII characters of a label come first, and the
others follow after a hyphen as numbers, in the order of their code points. A number is the count of
places that are passed over, in all rounds through the code points and the label, until the next
character is put in. Digits are letters and figures with the lowest digit first; a digit below the
threshold of its place ends a number.
-/

namespace ApiContract.Format.Encoding

/-- The number of digits. -/
def base : Nat := 36

/-- The first code point that is not written as it is. -/
def firstCode : Nat := 128

/-- The bias of the first number. -/
def firstBias : Nat := 72

def digit (value : Nat) : Char := Char.ofNat (if value < 26 then 97 + value else 22 + value)

def digitValue? (letter : Char) : Option Nat :=
  if letter.isLower then some (letter.toNat - 97)
  else if letter.isUpper then some (letter.toNat - 65)
  else if letter.isDigit then some (letter.toNat - 22)
  else none

/-- The threshold of a place, which is a multiple of the base. -/
def threshold (bias place : Nat) : Nat := if place ≤ bias then 1 else min 26 (place - bias)

theorem threshold_pos (bias place : Nat) : 0 < threshold bias place := by
  unfold threshold
  split <;> omega

/-- The bias that follows from the size of the last number. -/
def settle (steps size : Nat) : Nat :=
  if 455 < size then settle (steps + base) (size / 35)
  else steps + 36 * size / (size + 38)
termination_by size
decreasing_by omega

/-- The next bias after a number; a label of the given length holds its character. The first number
counts less. -/
def nextBias (number length : Nat) (isFirst : Bool) : Nat :=
  let size := if isFirst then number / 700 else number / 2
  settle 0 (size + size / length)

/-- The digits of a number. -/
def digits (bias place number : Nat) : List Char :=
  let limit := threshold bias place
  if number < limit then [digit number]
  else
    digit (limit + (number - limit) % (base - limit)) ::
      digits bias (place + base) ((number - limit) / (base - limit))
termination_by number
decreasing_by
  have positive := threshold_pos bias place
  exact Nat.lt_of_le_of_lt (Nat.div_le_self _ _) (by omega)

/-- A label that is being written: the number so far, the bias, the characters that are done, and
the digits. -/
structure Writer where
  number : Nat
  bias : Nat
  done : Nat
  written : List Char

/-- Passes over a character of the label, or writes it if it has the code point of this round. -/
def Writer.visit (basic code : Nat) (writer : Writer) (character : Char) : Writer :=
  if character.toNat < code then { writer with number := writer.number + 1 }
  else if character.toNat = code then
    { number := 0
      bias := nextBias writer.number (writer.done + 1) (writer.done == basic)
      done := writer.done + 1
      written := writer.written ++ digits writer.bias base writer.number }
  else writer

/-- Writes the characters with some code points, which increase from a first one on. -/
def Writer.writeAll (basic : Nat) (label : List Char) : Nat → List Nat → Writer → List Char
  | _, [], writer => writer.written
  | least, code :: codes, writer =>
      let skipped :=
        { writer with number := writer.number + (code - least) * (writer.done + 1) }
      let visited := label.foldl (Writer.visit basic code) skipped
      writeAll basic label (code + 1) codes { visited with number := visited.number + 1 }

/-- The mark of labels that are written in this way. -/
def mark : List Char := ['x', 'n', '-', '-']

/-- A label in ASCII; one that is in ASCII already stays as it is. -/
def encode (label : List Char) : List Char :=
  let ascii := label.filter (·.toNat < firstCode)
  if ascii.length = label.length then label
  else
    let codes := ((label.map Char.toNat).filter (firstCode ≤ ·)).mergeSort.eraseDups
    mark ++ ascii ++ (if ascii.isEmpty then [] else ['-']) ++
      Writer.writeAll ascii.length label firstCode codes ⟨0, firstBias, ascii.length, []⟩

/-- Reads one number, whose digits up to a place have a value so far. -/
def readNumber (bias : Nat) : Nat → Nat → Nat → List Char → Option (Nat × List Char)
  | _, _, _, [] => none
  | place, weight, value, letter :: rest =>
      match digitValue? letter with
      | none => none
      | some found =>
          let limit := threshold bias place
          let value := value + found * weight
          if found < limit then some (value, rest)
          else readNumber bias (place + base) (weight * (base - limit)) value rest

/-- A label that is being read: the place of the last character, its code point and the bias. -/
structure Reader where
  place : Nat
  code : Nat
  bias : Nat
  label : List Char

/-- Puts the character of a number into the label. -/
def Reader.put? (reader : Reader) (number : Nat) : Option Reader :=
  let length := reader.label.length + 1
  let sum := reader.place + number
  let code := reader.code + sum / length
  if code.isValidChar then
    let place := sum % length
    some
      { place := place + 1
        code := code
        bias := nextBias number length (reader.place == 0)
        label := reader.label.take place ++ Char.ofNat code :: reader.label.drop place }
  else none

/-- Reads the numbers up to the end of the text. Each has at least one digit; the first argument
bounds their count. -/
def Reader.readAll : Nat → Reader → List Char → Option (List Char)
  | _, reader, [] => some reader.label
  | 0, _, _ => none
  | bound + 1, reader, text =>
      match readNumber reader.bias base 1 0 text with
      | none => none
      | some (number, rest) => (reader.put? number).bind fun next => readAll bound next rest

/-- The parts of a text around its last hyphen; without one, the first part is empty. -/
def splitLast (text : List Char) : List Char × List Char :=
  let numbers := (text.reverse.takeWhile (· != '-')).reverse
  ((text.take (text.length - numbers.length)).dropLast, numbers)

/-- The label that a text after the mark stands for. A hyphen does not stand first. -/
def decode? (text : List Char) : Option (List Char) :=
  if text.head? = some '-' ∧ ¬ (text.drop 1).contains '-' then none
  else
    let (ascii, numbers) := splitLast text
    Reader.readAll numbers.length ⟨0, firstCode, firstBias, ascii⟩ numbers

end ApiContract.Format.Encoding
