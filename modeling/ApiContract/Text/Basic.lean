/-
This file holds small operations on texts.
-/

namespace ApiContract.Text

/-- The parts of a list between marks; there is one part more than there are marks. -/
def splitAt (mark : Char) : List Char → List (List Char)
  | [] => [[]]
  | character :: rest =>
      if character = mark then [] :: splitAt mark rest
      else
        match splitAt mark rest with
        | part :: parts => (character :: part) :: parts
        | [] => [[character]]

/-- The parts of a text between marks. -/
def split (mark : Char) (text : String) : List String :=
  (splitAt mark text.toList).map String.ofList

/-- Replaces each occurrence of two characters in a row by one character. -/
def replacePair (first second replacement : Char) : List Char → List Char
  | a :: b :: rest =>
      if a = first ∧ b = second then replacement :: replacePair first second replacement rest
      else a :: replacePair first second replacement (b :: rest)
  | short => short

/-- The rest of a text after a given start. -/
def stripStart (start text : String) : Option String :=
  if start.toList.isPrefixOf text.toList then
    some (String.ofList (text.toList.drop start.toList.length))
  else none

/-- Whether a text ends with another. -/
def endsWith (text ending : String) : Bool := ending.toList.isSuffixOf text.toList

/-- Whether a text starts with another. -/
def startsWith (text start : String) : Bool := start.toList.isPrefixOf text.toList

/-- A text without the given character at its ends. -/
def trimMark (mark : Char) (text : String) : String :=
  let start := text.toList.dropWhile (· == mark)
  String.ofList (start.reverse.dropWhile (· == mark)).reverse

/-- A text without the given character at its end. -/
def trimMarkEnd (mark : Char) (text : String) : String :=
  String.ofList (text.toList.reverse.dropWhile (· == mark)).reverse

/-- The parts of a text before and after the first mark. -/
def splitOnce (mark : Char) (text : String) : Option (String × String) :=
  let characters := text.toList
  match characters.dropWhile (· != mark) with
  | [] => none
  | _ :: rest => some (String.ofList (characters.takeWhile (· != mark)), String.ofList rest)

/-- Whether two texts agree up to the case of ASCII letters. -/
def sameIgnoringCase (first second : String) : Bool :=
  first.toList.map Char.toLower == second.toList.map Char.toLower

/-- The number of bytes of a text. -/
def byteLength (text : List Char) : Nat :=
  text.foldl (fun sum character => sum + character.utf8Size) 0

/-- The value of a hexadecimal digit. -/
def hexValue? (character : Char) : Option Nat :=
  if character.isDigit then some (character.toNat - 48)
  else if 'a' ≤ character ∧ character ≤ 'f' then some (character.toNat - 87)
  else if 'A' ≤ character ∧ character ≤ 'F' then some (character.toNat - 55)
  else none

/-- The number that a text of decimal digits stands for; a plus sign may stand before them. It fits
into 64 bits. -/
def unsigned? (text : String) : Option Nat :=
  let characters := text.toList
  let digits :=
    match characters with
    | '+' :: rest => rest
    | other => other
  if digits.isEmpty ∨ ¬ digits.all Char.isDigit then none
  else
    let value := digits.foldl (fun (value : Nat) digit => value * 10 + (digit.toNat - 48)) 0
    if value < Nat.pow 2 64 then some value else none

end ApiContract.Text
