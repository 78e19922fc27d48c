import ApiContract.Json.Reader

/-
This file steps over values of which nothing is kept. Nesting is not bounded here, and numbers may
lie outside every range.
-/

namespace ApiContract.Json

/-- An array or an object that is open. -/
inductive Frame where
  | array
  | object
  deriving DecidableEq, Repr

namespace Frame

def closes : Frame → Char → Bool
  | array, character => character == ']'
  | object, character => character == '\x7d'

def endFault : Frame → ReadFault
  | array => .endInList
  | object => .endInObject

def separatorFault : Frame → ReadFault
  | array => .expectedListCommaOrEnd
  | object => .expectedObjectCommaOrEnd

end Frame

/-- Steps over an escape after its backslash. -/
def skipEscape (rest : Rest) : Except ReadError Rest :=
  match rest.characters with
  | [] => rest.fail .endInString
  | 'u' :: _ => do
      let (_, rest) ← readCodeUnit rest.skip
      return rest
  | character :: _ =>
      if "\"\\/bfnrt".toList.contains character then .ok rest.skip
      else (Rest.skipBytes 1 rest.characters rest.position).fail .invalidEscape

/-- Steps over a string after its opening quote. The number bounds its characters. -/
def skipString : Nat → Rest → Except ReadError Rest
  | 0, rest => rest.fail .endInString
  | fuel + 1, rest =>
      match rest.characters with
      | [] => rest.fail .endInString
      | '"' :: _ => .ok rest.skip
      | '\\' :: _ => do skipString fuel (← skipEscape rest.skip)
      | character :: _ =>
          if character.toNat < 32 then rest.fail .controlCharacter else skipString fuel rest.skip

/-- Steps over an exponent after its letter. -/
def skipExponent (rest : Rest) : Except ReadError Rest :=
  let rest :=
    match rest.characters with
    | '+' :: _ => rest.skip
    | '-' :: _ => rest.skip
    | _ => rest
  match rest.characters with
  | [] => rest.fail .invalidNumber
  | character :: _ =>
      if (digitValue? character).isSome then .ok (skipDigits rest)
      else (Rest.skipBytes 1 rest.characters rest.position).fail .invalidNumber

def skipOptionalExponent (rest : Rest) : Except ReadError Rest :=
  match rest.characters with
  | 'e' :: _ => skipExponent rest.skip
  | 'E' :: _ => skipExponent rest.skip
  | _ => .ok rest

/-- Steps over a fraction and an exponent, if there are any. -/
def skipFraction (rest : Rest) : Except ReadError Rest :=
  match rest.characters with
  | '.' :: _ =>
      let after := skipDigits rest.skip
      if after.position = rest.skip.position then after.failNext .invalidNumber
      else skipOptionalExponent after
  | _ => skipOptionalExponent rest

/-- Steps over a number after its sign. -/
def skipNumber (rest : Rest) : Except ReadError Rest :=
  match rest.characters with
  | [] => rest.fail .invalidNumber
  | '0' :: next :: _ =>
      if (digitValue? next).isSome then rest.skip.failNext .invalidNumber
      else skipFraction rest.skip
  | character :: _ =>
      if (digitValue? character).isSome then skipFraction (skipDigits rest)
      else (Rest.skipBytes 1 rest.characters rest.position).fail .invalidNumber

/-- Steps over a key and its colon. -/
def skipKey (rest : Rest) : Except ReadError Rest :=
  let rest := rest.skipBlanks
  match rest.characters with
  | [] => rest.failNext .endInObject
  | '"' :: _ => do
      let rest ← skipString (rest.characters.length + 1) rest.skip
      let rest := rest.skipBlanks
      match rest.characters with
      | [] => rest.failNext .endInObject
      | ':' :: _ => return rest.skip
      | _ => rest.failNext .expectedColon
  | _ => rest.failNext .keyNotString

mutual

/-- Steps over a value inside some open frames, and over what closes them. The number bounds the
steps. -/
def skipInside : Nat → List Frame → Rest → Except ReadError Rest
  | 0, _, rest => rest.fail .endInValue
  | fuel + 1, frames, rest =>
      let rest := rest.skipBlanks
      match rest.characters with
      | [] => rest.failNext .endInValue
      | 'n' :: _ => do skipAfter fuel frames true (← readLetters ['u', 'l', 'l'] rest.skip)
      | 't' :: _ => do skipAfter fuel frames true (← readLetters ['r', 'u', 'e'] rest.skip)
      | 'f' :: _ => do skipAfter fuel frames true (← readLetters ['a', 'l', 's', 'e'] rest.skip)
      | '-' :: _ => do skipAfter fuel frames true (← skipNumber rest.skip)
      | '"' :: _ => do
          skipAfter fuel frames true (← skipString (rest.characters.length + 1) rest.skip)
      | '[' :: _ => skipAfter fuel (.array :: frames) false rest.skip
      | '\x7b' :: _ => skipAfter fuel (.object :: frames) false rest.skip
      | character :: _ =>
          if (digitValue? character).isSome then do
            skipAfter fuel frames true (← skipNumber rest)
          else rest.failNext .expectedValue

/-- Goes on in the innermost frame, after a value or at its start. -/
def skipAfter : Nat → List Frame → Bool → Rest → Except ReadError Rest
  | 0, _, _, rest => rest.fail .endInValue
  | _, [], _, rest => .ok rest
  | fuel + 1, frame :: outer, afterValue, rest =>
      let rest := rest.skipBlanks
      let enter := fun rest => do
        let rest ← if frame = .object then skipKey rest else pure rest
        skipInside fuel (frame :: outer) rest
      match rest.characters with
      | [] => rest.failNext frame.endFault
      | character :: _ =>
          if afterValue ∧ character = ',' then enter rest.skip
          else if frame.closes character then skipAfter fuel outer true rest.skip
          else if afterValue then rest.failNext frame.separatorFault
          else enter rest

end

/-- Steps over a value. Each step but the last takes a character. -/
def skipValue (rest : Rest) : Except ReadError Rest :=
  skipInside (2 * rest.characters.length + 4) [] rest

end ApiContract.Json
