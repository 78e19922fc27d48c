import ApiContract.Unicode.Table
import ApiContract.Unicode.Table.Alphabetic
import ApiContract.Unicode.Table.Category

/-
This file gives every character its general category, and the classes that are unions of categories.
-/

namespace ApiContract.Unicode

/-- The general categories, in the order of their indices. -/
inductive Category where
  | uppercaseLetter
  | lowercaseLetter
  | titlecaseLetter
  | modifierLetter
  | otherLetter
  | nonspacingMark
  | spacingMark
  | enclosingMark
  | decimalNumber
  | letterNumber
  | otherNumber
  | connectorPunctuation
  | dashPunctuation
  | openPunctuation
  | closePunctuation
  | initialPunctuation
  | finalPunctuation
  | otherPunctuation
  | mathSymbol
  | currencySymbol
  | modifierSymbol
  | otherSymbol
  | spaceSeparator
  | lineSeparator
  | paragraphSeparator
  | control
  | format
  | surrogate
  | privateUse
  | unassigned
  deriving DecidableEq, Repr

/-- All categories by index. -/
def Category.all : Array Category := #[
  .uppercaseLetter, .lowercaseLetter, .titlecaseLetter, .modifierLetter, .otherLetter,
  .nonspacingMark, .spacingMark, .enclosingMark, .decimalNumber, .letterNumber, .otherNumber,
  .connectorPunctuation, .dashPunctuation, .openPunctuation, .closePunctuation,
  .initialPunctuation, .finalPunctuation, .otherPunctuation, .mathSymbol, .currencySymbol,
  .modifierSymbol, .otherSymbol, .spaceSeparator, .lineSeparator, .paragraphSeparator, .control,
  .format, .surrogate, .privateUse, .unassigned]

/-- The categories by range; the unassigned code points have none. -/
def categoryMap : CodeMap := tableMap categoryTable

/-- The general category of a character. -/
def category (character : Char) : Category :=
  ((categoryMap.get? character.toNat).bind (Category.all[·]?)).getD .unassigned

def Category.isLetter : Category → Bool
  | uppercaseLetter | lowercaseLetter | titlecaseLetter | modifierLetter | otherLetter => true
  | _ => false

def Category.isMark : Category → Bool
  | nonspacingMark | spacingMark | enclosingMark => true
  | _ => false

def Category.isNumber : Category → Bool
  | decimalNumber | letterNumber | otherNumber => true
  | _ => false

def Category.isPunctuation : Category → Bool
  | connectorPunctuation | dashPunctuation | openPunctuation | closePunctuation => true
  | initialPunctuation | finalPunctuation | otherPunctuation => true
  | _ => false

def Category.isSymbol : Category → Bool
  | mathSymbol | currencySymbol | modifierSymbol | otherSymbol => true
  | _ => false

def Category.isSeparator : Category → Bool
  | spaceSeparator | lineSeparator | paragraphSeparator => true
  | _ => false

def Category.isOther : Category → Bool
  | control | format | surrogate | privateUse | unassigned => true
  | _ => false

/-- Alphabetic characters that are neither letters nor letter numbers. -/
def otherAlphabetic : CodeSet := tableSet otherAlphabeticTable

/-- Joining characters that are neither nonspacing nor enclosing marks. -/
def otherExtend : CodeSet := tableSet otherExtendTable

def isAlphabetic (character : Char) : Bool :=
  let found := category character
  found.isLetter || found == .letterNumber || otherAlphabetic.accepts character

def isAlphanumeric (character : Char) : Bool :=
  isAlphabetic character || (category character).isNumber

/-- Whether a character joins the one before it. -/
def isExtending (character : Char) : Bool :=
  match category character with
  | .nonspacingMark | .enclosingMark => true
  | _ => otherExtend.accepts character

/-- White space, by its own property. -/
def whiteSpace : List (Nat × Nat) :=
  [(9, 13), (32, 32), (133, 133), (160, 160), (5760, 5760), (8192, 8202), (8232, 8233),
    (8239, 8239), (8287, 8287), (12288, 12288)]

def isWhiteSpace (character : Char) : Bool :=
  whiteSpace.any fun range => range.1 ≤ character.toNat && character.toNat ≤ range.2

/-- A text without the white space at its ends. -/
def trim (text : String) : String :=
  let start := text.toList.dropWhile isWhiteSpace
  String.ofList (start.reverse.dropWhile isWhiteSpace).reverse

end ApiContract.Unicode
