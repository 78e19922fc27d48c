import ApiContract.Format.Address

/-
This file decides which texts are templates of identifiers, and which are pointers into documents.
-/

namespace ApiContract.Format

def isLowerHex (character : Char) : Bool :=
  character.isDigit || ('a' ≤ character && character ≤ 'f')

/-- Skips the characters of a variable name; octets are written with small letters. -/
def skipVariable : List Char → Nat → List Char × Nat
  | [], count => ([], count)
  | '%' :: first :: second :: rest, count =>
      if isLowerHex first ∧ isLowerHex second then skipVariable rest (count + 1)
      else ('%' :: first :: second :: rest, count)
  | character :: rest, count =>
      if character.isLower ∨ character.isDigit ∨ character = '_' then skipVariable rest (count + 1)
      else (character :: rest, count)

/-- Skips a modifier: a length of at most four digits, or a star. -/
def skipModifier (text : List Char) : List Char :=
  match text with
  | '*' :: rest => rest
  | ':' :: first :: rest =>
      if first.isDigit ∧ first ≠ '0' then
        let digits := (rest.take 3).takeWhile Char.isDigit
        rest.drop digits.length
      else text
  | _ => text

/-- Reads variables with commas between them, up to the closing brace. -/
def readVariables : Nat → List Char → Option (List Char)
  | 0, _ => none
  | fuel + 1, text =>
      let (rest, count) := skipVariable text 0
      if count = 0 then none
      else
        match skipModifier rest with
        | ',' :: rest => readVariables fuel rest
        | '\x7d' :: rest => some rest
        | _ => none

/-- Whether a text is a template, with a bound on the steps. -/
def isTemplateWithin : Nat → List Char → Bool
  | _, [] => true
  | 0, _ => false
  | fuel + 1, '\x7b' :: rest =>
      let rest :=
        match rest with
        | operator :: after =>
            if "+#./;?&=,!@|".toList.contains operator then after else rest
        | [] => []
      match readVariables (rest.length + 1) rest with
      | some rest => isTemplateWithin fuel rest
      | none => false
  | fuel + 1, '%' :: first :: second :: rest =>
      isLowerHex first && isLowerHex second && isTemplateWithin fuel rest
  | fuel + 1, character :: rest =>
      !(character ≤ ' ' || "\"'<>%\\^\x60|\x7d".toList.contains character) &&
        isTemplateWithin fuel rest

def isTemplate (text : List Char) : Bool := isTemplateWithin (text.length + 1) text

/-- Every tilde is followed by zero or one. -/
def isEscaped : List Char → Bool
  | [] => true
  | '~' :: '0' :: rest => isEscaped rest
  | '~' :: '1' :: rest => isEscaped rest
  | character :: rest => character != '~' && isEscaped rest

def isPointer (text : List Char) : Bool :=
  match text with
  | [] => true
  | first :: _ => first == '/' && isEscaped text

/-- A number without a leading zero, and then a pointer or a number sign. -/
def isRelativePointer (text : List Char) : Bool :=
  let digits := text.takeWhile Char.isDigit
  let rest := text.drop digits.length
  !digits.isEmpty && (digits.length == 1 || digits.head? != some '0') &&
    (rest == ['#'] || isPointer rest)

end ApiContract.Format
