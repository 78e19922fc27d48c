import ApiContract.Unicode.Property

/-
This file holds the conditions that a pattern can put on a place in a text.
-/

namespace ApiContract.Pattern

/-- Conditions on a place in a text. -/
inductive Anchor where
  | textStart
  | textEnd
  | lineStart
  | lineEnd
  | wordBoundary
  | noWordBoundary
  | wordStart
  | wordEnd
  | wordStartHalf
  | wordEndHalf
  deriving DecidableEq, Repr

namespace Anchor

def isWordAt (text : Array Char) (position : Nat) : Bool :=
  text[position]?.any Unicode.wordSet.accepts

def isWordBefore (text : Array Char) (position : Nat) : Bool :=
  position ≠ 0 && isWordAt text (position - 1)

/-- Whether a condition holds at a position. -/
def holds (text : Array Char) (position : Nat) : Anchor → Bool
  | textStart => position == 0
  | textEnd => position == text.size
  | lineStart => position == 0 || text[position - 1]? == some '\n'
  | lineEnd => position == text.size || text[position]? == some '\n'
  | wordBoundary => isWordBefore text position != isWordAt text position
  | noWordBoundary => isWordBefore text position == isWordAt text position
  | wordStart => !isWordBefore text position && isWordAt text position
  | wordEnd => isWordBefore text position && !isWordAt text position
  | wordStartHalf => !isWordBefore text position
  | wordEndHalf => !isWordAt text position

end Anchor

end ApiContract.Pattern
