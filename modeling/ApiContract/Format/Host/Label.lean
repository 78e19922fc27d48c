import ApiContract.Format.Host
import ApiContract.Format.Host.Encoding
import ApiContract.Format.Host.Mapping
import ApiContract.Unicode.Category
import ApiContract.Unicode.Composition
import ApiContract.Unicode.Direction

/-
This file holds the rules for the labels of international host names: which characters a label has,
where joiners may stand, and in which directions the characters of a label are written.
-/

namespace ApiContract.Format

open Unicode (Direction)

/-- A label without the mark and the encoding, if it has them. What is encoded has a character
beyond ASCII, and only characters that mapping and composition leave alone. -/
def plainLabel? (label : List Char) : Option (List Char) :=
  if Encoding.mark.isPrefixOf label then
    match Encoding.decode? (label.drop Encoding.mark.length) with
    | none => none
    | some plain =>
        if plain.any (Encoding.firstCode ≤ ·.toNat) ∧ plain.all HostMapping.isValid ∧
            Unicode.composed plain = plain then some plain
        else none
  else some label

/-- The characters of labels. Of ASCII these are the lower-case letters, the digits and the hyphen.
-/
def isLabelCharacter (character : Char) : Bool :=
  128 ≤ character.toNat || character.isLower || character.isDigit || character == '-'

/-- Whether the marks that a joiner may skip end at a character that joins in one of some ways. -/
def reachesJoining (ways : List Unicode.Joining) : List Char → Bool
  | [] => false
  | character :: rest =>
      match Unicode.joining? character with
      | some .transparent => reachesJoining ways rest
      | some way => ways.contains way
      | none => false

/-- The class of the marks after which a joiner may stand. -/
def viramaClass : Nat := 9

/-- Whether a joiner fits between the characters before it, from the last one, and those behind. -/
def fitsJoiner (before : List Char) (joiner : Char) (after : List Char) : Bool :=
  match before with
  | [] => false
  | last :: _ =>
      Unicode.combiningClass last == viramaClass ||
        (joiner == '\u200c' && reachesJoining [.left, .dual] before &&
          reachesJoining [.right, .dual] after)

def joinersFit (before : List Char) : List Char → Bool
  | [] => true
  | character :: after =>
      (if character = '\u200c' ∨ character = '\u200d' then fitsJoiner before character after
        else true) &&
        joinersFit (character :: before) after

/-- A plain label has no hyphens at its ends and no two in its third and fourth places, and it does
not start with a mark. -/
def isPlainLabel (label : List Char) : Bool :=
  !label.isEmpty && label.all isLabelCharacter && label.head? != some '-' &&
    label.getLast? != some '-' && (label.drop 2).take 2 != ['-', '-'] &&
    !label.head?.any (Unicode.category · |>.isMark) && joinersFit [] label

/-- The directions that make a name follow the rules for mixed directions. -/
def isRightward (direction : Direction) : Bool :=
  [.rightToLeft, .arabicLetter, .arabicNumber].contains direction

/-- The directions that may stand in all labels. -/
def isNeutral (direction : Direction) : Bool :=
  [.europeanNumber, .europeanSeparator, .commonSeparator, .europeanTerminator, .otherNeutral,
    .boundaryNeutral, .nonspacingMark].contains direction

/-- A label keeps to the direction of its first character, and ends in it or in a number. Labels
that are written from right to left have one kind of numbers. -/
def keepsDirection (label : List Char) : Bool :=
  let directions := label.map Unicode.direction
  let last? := (directions.reverse.dropWhile (· == .nonspacingMark)).head?
  match directions.head? with
  | some .leftToRight =>
      directions.all (fun found => found == .leftToRight || isNeutral found) &&
        last?.any [.leftToRight, .europeanNumber].contains
  | some .rightToLeft | some .arabicLetter =>
      directions.all (fun found => isRightward found || isNeutral found) &&
        last?.any
          [.rightToLeft, .arabicLetter, .europeanNumber, .arabicNumber].contains &&
        !(directions.contains .europeanNumber && directions.contains .arabicNumber)
  | _ => false

end ApiContract.Format
