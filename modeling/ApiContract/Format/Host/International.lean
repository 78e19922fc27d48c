import ApiContract.Format.Host.Label

/-
This file decides which texts are international host names. A name is mapped and composed, and its
labels are taken out of their encoding; then the labels follow their own rules, and some characters
depend on others of the name.
-/

namespace ApiContract.Format

def isWithin (first last : Nat) (character : Char) : Bool :=
  first ≤ character.toNat && character.toNat ≤ last

def isArabicDigit (character : Char) : Bool := isWithin 0x0660 0x0669 character

def isExtendedDigit (character : Char) : Bool := isWithin 0x06F0 0x06F9 character

/-- The characters by which a middle dot may stand. -/
def isJapanese (character : Char) : Bool :=
  isWithin 0x3040 0x309F character || isWithin 0x4E00 0x9FFF character ||
    (isWithin 0x30A0 0x30FF character && character != '\u30fb')

/-- Characters that are never allowed: lengthening marks, tone marks and repetition marks. -/
def isRefused (character : Char) : Bool :=
  [0x0640, 0x07FA, 0x302E, 0x302F, 0x3031, 0x3032, 0x3033, 0x3034, 0x3035, 0x303B].contains
    character.toNat

/-- The rules for characters that depend on the rest of their name. -/
def fitsContext (name : List Char) (before : Option Char) (character : Char)
    (after : Option Char) : Bool :=
  match character with
  | '\u00b7' => before == some 'l' && after == some 'l'
  | '\u0375' => after.any (isWithin 0x0370 0x03FF)
  | '\u05f3' => before.any (isWithin 0x0590 0x05FF)
  | '\u05f4' => before.any (isWithin 0x0590 0x05FF)
  | '\u30fb' => name.any isJapanese
  | _ => !isRefused character && !(isArabicDigit character && name.any isExtendedDigit)

def allFit (name : List Char) : Option Char → List Char → Bool
  | _, [] => true
  | before, character :: rest =>
      fitsContext name before character rest.head? && allFit name (some character) rest

/-- The plain labels of a name, if all its characters are allowed. -/
def plainLabels? (text : List Char) : Option (List (List Char)) :=
  (HostMapping.map? text).bind fun mapped =>
    (splitOn (· == '.') (Unicode.composed mapped)).mapM plainLabel?

/-- Whether the encoded labels are short enough. -/
def fitsLimits (labels : List (List Char)) : Bool :=
  let encoded := labels.map Encoding.encode
  encoded.all (·.length ≤ labelLimit) && (List.intercalate ['.'] encoded).length ≤ hostLimit

/-- Whether labels are those of an international host name. -/
def areLabels (labels : List (List Char)) : Bool :=
  let name := List.intercalate ['.'] labels
  let mixed := labels.any (·.any (isRightward <| Unicode.direction ·))
  labels.all isPlainLabel && (!mixed || labels.all keepsDirection) && fitsLimits labels &&
    allFit name none name

/-- Whether a text is an international host name. -/
def isInternationalHost (text : List Char) : Bool := (plainLabels? text).any areLabels

end ApiContract.Format
