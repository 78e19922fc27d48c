import ApiContract.Pattern.Plain.Parser

/-
This file reads the patterns of schemas. A class letter in a schema names fewer characters than in a
pattern, and is replaced by a class; an escaped control letter is replaced by its character. A text
with look-around or back references stays as it is.
-/

namespace ApiContract.Pattern

open Plain

/-- The class that a letter in a schema stands for. -/
def letterClass (occurrence : Occurrence) : List Char :=
  let inside :=
    match occurrence.letter with
    | .digit => "0-9"
    | .word => "A-Za-z0-9_"
    | .space => " \t\n\r\x0b\x0c\u00a0\ufeff\u2003\u2029"
  (if occurrence.negated then ['[', '^'] else ['[']) ++ inside.toList ++ [']']

/-- The text with a class in place of each letter; the last letter comes first. -/
def replaceLetters (text : List Char) (letters : List Occurrence) : List Char :=
  letters.foldl
    (fun text occurrence =>
      text.take occurrence.position ++ letterClass occurrence ++
        text.drop (occurrence.position + 2))
    text

/-- The text with a control character in place of the escape whose letter stands at a position. -/
def replaceControl? (text : List Char) (position : Nat) : Option (List Char) :=
  match text.drop position with
  | letter :: rest =>
      if letter.isAlpha then
        some (text.take (position - 2) ++ Char.ofNat (letter.toNat % 32) :: rest)
      else none
  | [] => none

/-- The text of a pattern for matching, with a bound on the control letters; `none` if the text is
no pattern. -/
def sourceWithin : Nat → List Char → Option (List Char)
  | 0, _ => none
  | fuel + 1, text =>
      match parse text with
      | .ok (_, state) => if state.bell then none else some (replaceLetters text state.letters)
      | .error .beyond => some text
      | .error (.control position) => replaceControl? text position >>= sourceWithin fuel
      | .error .invalid => none

def source? (text : String) : Option (List Char) := sourceWithin (text.length + 1) text.toList

/-- Whether a text is a pattern by its grammar alone; names of properties are not looked up. -/
def isPattern (text : String) : Bool := (source? text).isSome

end ApiContract.Pattern
