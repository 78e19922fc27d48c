import ApiContract.Unicode.Table
import ApiContract.Unicode.Table.Direction

/-
This file gives every character the direction in which it is written and the way in which it joins
its neighbours.
-/

namespace ApiContract.Unicode

/-- The directions, in the order of their indices. -/
inductive Direction where
  | leftToRight
  | rightToLeft
  | arabicLetter
  | arabicNumber
  | europeanNumber
  | europeanSeparator
  | commonSeparator
  | europeanTerminator
  | otherNeutral
  | boundaryNeutral
  | nonspacingMark
  | paragraphSeparator
  | segmentSeparator
  | whiteSpace
  | leftToRightEmbedding
  | leftToRightOverride
  | rightToLeftEmbedding
  | rightToLeftOverride
  | popFormat
  | leftToRightIsolate
  | rightToLeftIsolate
  | firstStrongIsolate
  | popIsolate
  deriving DecidableEq, Repr

/-- All directions by index. -/
def Direction.all : Array Direction := #[
  .leftToRight, .rightToLeft, .arabicLetter, .arabicNumber, .europeanNumber, .europeanSeparator,
  .commonSeparator, .europeanTerminator, .otherNeutral, .boundaryNeutral, .nonspacingMark,
  .paragraphSeparator, .segmentSeparator, .whiteSpace, .leftToRightEmbedding,
  .leftToRightOverride, .rightToLeftEmbedding, .rightToLeftOverride, .popFormat,
  .leftToRightIsolate, .rightToLeftIsolate, .firstStrongIsolate, .popIsolate]

def directionMap : CodeMap := tableMap directionTable

/-- The direction of a character; those without an entry are written from left to right. -/
def direction (character : Char) : Direction :=
  ((directionMap.get? character.toNat).bind (Direction.all[·]?)).getD .leftToRight

/-- The ways of joining, in the order of their indices. Most characters join nothing. -/
inductive Joining where
  | left
  | right
  | dual
  | transparent
  deriving DecidableEq, Repr

def Joining.all : Array Joining := #[.left, .right, .dual, .transparent]

def joiningMap : CodeMap := tableMap joiningTable

/-- The way in which a character joins its neighbours, if it does. -/
def joining? (character : Char) : Option Joining :=
  (joiningMap.get? character.toNat).bind (Joining.all[·]?)

end ApiContract.Unicode
