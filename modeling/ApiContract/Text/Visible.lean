import ApiContract.Unicode.Category

/-
This file writes texts so that every character in them can be seen. Quotes, backslashes, characters
without a shape of their own and marks that join the character before them are escaped.
-/

namespace ApiContract.Text

/-- Whether a character has a shape of its own. -/
def isPrintable (character : Char) : Bool :=
  if character.toNat < 128 then ' ' ≤ character && character ≤ '~'
  else
    let found := Unicode.category character
    !(found.isOther || found.isSeparator)

/-- The digits of a code point, with base sixteen. -/
def hexDigits (code : Nat) : List Char := Nat.toDigits 16 code

def visibleCharacter (character : Char) : List Char :=
  match character with
  | '\x00' => ['\\', '0']
  | '\t' => ['\\', 't']
  | '\n' => ['\\', 'n']
  | '\r' => ['\\', 'r']
  | '"' => ['\\', '"']
  | '\\' => ['\\', '\\']
  | other =>
      if !isPrintable other || (128 ≤ other.toNat && Unicode.isExtending other) then
        ['\\', 'u', '\x7b'] ++ hexDigits other.toNat ++ ['\x7d']
      else [other]

/-- The text in quotes, with escapes for what cannot be seen. -/
def visible (text : String) : String :=
  String.ofList ('"' :: text.toList.flatMap visibleCharacter ++ ['"'])

end ApiContract.Text
