/-
This file decides which texts are host names.
-/

namespace ApiContract.Format

/-- The parts of a text between marks. -/
def splitOn (isMark : Char → Bool) : List Char → List (List Char)
  | [] => [[]]
  | character :: rest =>
      if isMark character then [] :: splitOn isMark rest
      else
        match splitOn isMark rest with
        | part :: parts => (character :: part) :: parts
        | [] => [[character]]

/-- The greatest length of a host name. -/
def hostLimit : Nat := 253

/-- The greatest length of a label. -/
def labelLimit : Nat := 63

/-- A label has ASCII letters, digits and hyphens, and no hyphen at its ends. -/
def isHostLabel (label : List Char) : Bool :=
  !label.isEmpty && label.length ≤ labelLimit && label.head? != some '-' &&
    label.getLast? != some '-' &&
    label.all fun character => character.isAlphanum || character == '-'

/-- A host name has labels with points between them. -/
def isHost (text : List Char) : Bool :=
  text.length ≤ hostLimit && (splitOn (· == '.') text).all isHostLabel

end ApiContract.Format
