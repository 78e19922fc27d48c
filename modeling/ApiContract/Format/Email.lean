import ApiContract.Format.Address
import ApiContract.Format.Host
import ApiContract.Text.Basic
import ApiContract.Unicode.Category

/-
This file decides which texts are mail addresses: a local part, which may be quoted, and a host name
or a network address in brackets. A display name may stand before an address in angle brackets.
-/

namespace ApiContract.Format

/-- Letters and numbers of all scripts may stand in a name. -/
def isAtomCharacter (character : Char) : Bool :=
  Unicode.isAlphanumeric character ||
    "!#$%&'*+-/=?^_\x60\x7b|\x7d~".toList.contains character

/-- Atoms with points between them. -/
def isDotted (text : List Char) : Bool :=
  (splitOn (· == '.') text).all fun atom => !atom.isEmpty && atom.all isAtomCharacter

/-- The inside of a quoted local part. -/
def isQuotedContent : List Char → Bool
  | [] => true
  | '\\' :: character :: rest => '!' ≤ character && character ≤ '~' && isQuotedContent rest
  | ['\\'] => false
  | character :: rest =>
      (character == ' ' || character == '\t' ||
        ('!' ≤ character && character ≤ '~' && character != '"')) && isQuotedContent rest

def isLocalPart (text : List Char) : Bool :=
  if text.isEmpty ∨ 64 < Text.byteLength text then false
  else if text.head? = some '"' ∧ text.getLast? = some '"' then
    2 < text.length && isQuotedContent ((text.drop 1).dropLast)
  else isDotted text

/-- The inside of a domain in brackets, if the text is one. -/
def bracketed? (text : List Char) : Option (List Char) :=
  if text.head? = some '[' ∧ text.getLast? = some ']' ∧ 2 ≤ text.length then
    some ((text.drop 1).dropLast)
  else none

def isDomain (text : List Char) : Bool :=
  if text.isEmpty ∨ 254 < Text.byteLength text then false
  else
    match bracketed? text with
    | some inside => inside.all fun character =>
        ('!' ≤ character && character ≤ 'Z') || ('^' ≤ character && character ≤ '~')
    | none =>
        isDotted text && (splitOn (· == '.') text).all fun label => Text.byteLength label ≤ 63

/-- The parts of a text before and after the last mark. -/
def splitLast (mark : List Char) (text : List Char) : Option (List Char × List Char) :=
  match text with
  | [] => none
  | character :: rest =>
      match splitLast mark rest with
      | some (before, after) => some (character :: before, after)
      | none => if mark.isPrefixOf text then some ([], text.drop mark.length) else none

/-- The address without its display name. -/
def bareAddress? (text : List Char) : Option (List Char) :=
  match splitLast [' ', '<'] text with
  | none => some text
  | some (_, after) =>
      let trimmed := (Unicode.trim (String.ofList after)).toList
      if trimmed.getLast? = some '>' then some trimmed.dropLast else none

/-- Whether a text is a mail address whose host names pass a given test. -/
def isEmail (host : List Char → Bool) (text : List Char) : Bool :=
  match bareAddress? text >>= splitLast ['@'] with
  | none => false
  | some (name, domain) =>
      isLocalPart name && isDomain domain &&
        match bracketed? domain with
        | some inside =>
            if "IPv6:".toList.isPrefixOf inside then isVersion6 (inside.drop 5)
            else isVersion4 inside
        | none => host domain

end ApiContract.Format
