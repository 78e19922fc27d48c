import ApiContract.Json.Basic
import ApiContract.Text.Basic

/-
This file reads a document tree from JSON text. A reading keeps the rest of the text and the
position of its first character; a fault carries the position at which it is reported.
-/

namespace ApiContract.Json

/-- What can be wrong with a text. -/
inductive ReadFault where
  | endInList
  | endInObject
  | endInString
  | endInValue
  | expectedColon
  | expectedListCommaOrEnd
  | expectedObjectCommaOrEnd
  | expectedIdentifier
  | expectedValue
  | invalidEscape
  | invalidNumber
  | numberOutOfRange
  | controlCharacter
  | keyNotString
  | loneSurrogate
  | trailingComma
  | trailingCharacters
  | unexpectedEndOfHexEscape
  | tooDeep
  deriving DecidableEq, Repr

def ReadFault.message : ReadFault → String
  | endInList => "EOF while parsing a list"
  | endInObject => "EOF while parsing an object"
  | endInString => "EOF while parsing a string"
  | endInValue => "EOF while parsing a value"
  | expectedColon => "expected `:`"
  | expectedListCommaOrEnd => "expected `,` or `]`"
  | expectedObjectCommaOrEnd => "expected `,` or `\x7d`"
  | expectedIdentifier => "expected ident"
  | expectedValue => "expected value"
  | invalidEscape => "invalid escape"
  | invalidNumber => "invalid number"
  | numberOutOfRange => "number out of range"
  | controlCharacter => "control character (\\u0000-\\u001F) found while parsing a string"
  | keyNotString => "key must be a string"
  | loneSurrogate => "lone leading surrogate in hex escape"
  | trailingComma => "trailing comma"
  | trailingCharacters => "trailing characters"
  | unexpectedEndOfHexEscape => "unexpected end of hex escape"
  | tooDeep => "recursion limit exceeded"

/-- A place in a text: the line from one, and the bytes since the start of the line. -/
structure ReadPosition where
  line : Nat
  column : Nat
  deriving DecidableEq, Repr

def ReadPosition.start : ReadPosition := ⟨1, 0⟩

def ReadPosition.after (position : ReadPosition) (character : Char) : ReadPosition :=
  if character = '\n' then ⟨position.line + 1, 0⟩
  else { position with column := position.column + character.utf8Size }

/-- A fault and where it is reported. -/
structure ReadError where
  fault : ReadFault
  position : ReadPosition
  deriving DecidableEq, Repr

def ReadError.message (error : ReadError) : String :=
  error.fault.message ++ " at line " ++ toString error.position.line ++ " column " ++
    toString error.position.column

/-- The part of a text that is not read yet. -/
structure Rest where
  characters : List Char
  position : ReadPosition

namespace Rest

def ofString (text : String) : Rest := ⟨text.toList, .start⟩

def skip (rest : Rest) : Rest :=
  match rest.characters with
  | [] => rest
  | character :: characters => ⟨characters, rest.position.after character⟩

/-- A fault at what was read last. -/
def fail {α : Type} (rest : Rest) (fault : ReadFault) : Except ReadError α :=
  .error ⟨fault, rest.position⟩

/-- A fault at the first byte that is not read yet. -/
def failNext {α : Type} (rest : Rest) (fault : ReadFault) : Except ReadError α :=
  match rest.characters with
  | [] => .error ⟨fault, rest.position⟩
  | '\n' :: _ => .error ⟨fault, ⟨rest.position.line + 1, 0⟩⟩
  | _ => .error ⟨fault, { rest.position with column := rest.position.column + 1 }⟩

def isBlank (character : Char) : Bool :=
  character == ' ' || character == '\n' || character == '\t' || character == '\r'

def dropWhile (accepts : Char → Bool) : List Char → ReadPosition → Rest
  | [], position => ⟨[], position⟩
  | character :: characters, position =>
      if accepts character then dropWhile accepts characters (position.after character)
      else ⟨character :: characters, position⟩

def skipBlanks (rest : Rest) : Rest := dropWhile isBlank rest.characters rest.position

/-- Skips a number of bytes, also from the middle of a character. -/
def skipBytes : Nat → List Char → ReadPosition → Rest
  | 0, characters, position => ⟨characters, position⟩
  | _ + 1, [], position => ⟨[], position⟩
  | count + 1, character :: characters, position =>
      if character.utf8Size ≤ count + 1 then
        skipBytes (count + 1 - character.utf8Size) characters (position.after character)
      else ⟨characters, { position with column := position.column + count + 1 }⟩
termination_by _ characters => characters.length

end Rest

/-- Reads the letters that remain of `null`, `true` or `false`. -/
def readLetters : List Char → Rest → Except ReadError Rest
  | [], rest => .ok rest
  | letter :: letters, rest =>
      match rest.characters with
      | [] => rest.fail .endInValue
      | character :: _ =>
          if character = letter then readLetters letters rest.skip
          else (Rest.skipBytes 1 rest.characters rest.position).fail .expectedIdentifier

def digitValue? (character : Char) : Option Nat :=
  if '0' ≤ character ∧ character ≤ '9' then some (character.toNat - 48) else none

/-- Reads the four digits of a code unit. -/
def readCodeUnit (rest : Rest) : Except ReadError (Nat × Rest) :=
  let bytes := (rest.characters.take 4).foldl (fun sum character => sum + character.utf8Size) 0
  let after := Rest.skipBytes 4 rest.characters rest.position
  if bytes < 4 then after.fail .endInString
  else
    match rest.characters.take 4 |>.mapM Text.hexValue? with
    | some [first, second, third, fourth] =>
        .ok (((first * 16 + second) * 16 + third) * 16 + fourth, after)
    | _ => after.fail .invalidEscape

/-- Reads one required character of the escape of a second surrogate. -/
def readSurrogateMark (mark : Char) (rest : Rest) : Except ReadError Rest :=
  match rest.characters with
  | [] => rest.fail .endInString
  | character :: _ =>
      if character = mark then .ok rest.skip
      else (Rest.skipBytes 1 rest.characters rest.position).fail .unexpectedEndOfHexEscape

/-- Reads the character of an escape `\u`, which may take two code units. -/
def readUnicodeEscape (rest : Rest) : Except ReadError (Char × Rest) := do
  let (unit, rest) ← readCodeUnit rest
  if 0xDC00 ≤ unit ∧ unit ≤ 0xDFFF then rest.fail .loneSurrogate
  else if unit < 0xD800 ∨ 0xDBFF < unit then .ok (Char.ofNat unit, rest)
  else
    let rest ← readSurrogateMark '\\' rest
    let rest ← readSurrogateMark 'u' rest
    let (second, rest) ← readCodeUnit rest
    if second < 0xDC00 ∨ 0xDFFF < second then rest.fail .loneSurrogate
    else .ok (Char.ofNat (0x10000 + (unit - 0xD800) * 1024 + (second - 0xDC00)), rest)

/-- Reads what follows a backslash. -/
def readEscape (rest : Rest) : Except ReadError (Char × Rest) :=
  match rest.characters with
  | [] => rest.fail .endInString
  | '"' :: _ => .ok ('"', rest.skip)
  | '\\' :: _ => .ok ('\\', rest.skip)
  | '/' :: _ => .ok ('/', rest.skip)
  | 'b' :: _ => .ok ('\x08', rest.skip)
  | 'f' :: _ => .ok ('\x0c', rest.skip)
  | 'n' :: _ => .ok ('\n', rest.skip)
  | 'r' :: _ => .ok ('\r', rest.skip)
  | 't' :: _ => .ok ('\t', rest.skip)
  | 'u' :: _ => readUnicodeEscape rest.skip
  | _ => (Rest.skipBytes 1 rest.characters rest.position).fail .invalidEscape

/-- Reads a string after its opening quote. The number bounds the characters of the string. -/
def readString : Nat → List Char → Rest → Except ReadError (String × Rest)
  | 0, _, rest => rest.fail .endInString
  | fuel + 1, reversed, rest =>
      match rest.characters with
      | [] => rest.fail .endInString
      | '"' :: _ => .ok (String.ofList reversed.reverse, rest.skip)
      | '\\' :: _ => do
          let (character, rest) ← readEscape rest.skip
          readString fuel (character :: reversed) rest
      | character :: _ =>
          if character.toNat < 32 then rest.skip.fail .controlCharacter
          else readString fuel (character :: reversed) rest.skip

def greatestUnsigned : Nat := Nat.pow 2 64 - 1

/-- The powers of ten by which a significand is scaled in one step. -/
def powerOfTen (exponent : Nat) : Option Binary64 :=
  if exponent ≤ 308 then Binary64.ofNat (Nat.pow 10 exponent) else none

/-- Scales a significand in steps of at most `1e308`; each step rounds once. -/
def scaleFloat : Nat → Binary64 → Int → Option Binary64
  | 0, _, _ => none
  | fuel + 1, value, exponent =>
      match powerOfTen exponent.natAbs with
      | some power => if 0 ≤ exponent then value.mul power else value.div power
      | none =>
          if value.isZero then some value
          else if 0 ≤ exponent then none
          else
            match powerOfTen 308 >>= value.div with
            | some smaller => scaleFloat fuel smaller (exponent + 308)
            | none => none

/-- A float is its digits as an integer, rounded, and then scaled by a power of ten. -/
def makeFloat (negative : Bool) (significand : Nat) (exponent : Int) (rest : Rest) :
    Except ReadError (Number × Rest) :=
  match Binary64.ofNat significand >>= fun value => scaleFloat 12 value exponent with
  | some value => .ok (.float (if negative then value.neg else value), rest)
  | none => rest.fail .numberOutOfRange

/-- Reads the digits of an exponent, which stops counting past the greatest 32-bit integer. -/
def readExponentDigits : List Char → ReadPosition → Nat → Option Nat × Rest
  | [], position, value => (some value, ⟨[], position⟩)
  | character :: characters, position, value =>
      match digitValue? character with
      | none => (some value, ⟨character :: characters, position⟩)
      | some digit =>
          let position := position.after character
          if 2147483647 < value * 10 + digit then (none, ⟨characters, position⟩)
          else readExponentDigits characters position (value * 10 + digit)

def skipDigits (rest : Rest) : Rest :=
  Rest.dropWhile (fun character => (digitValue? character).isSome) rest.characters rest.position

/-- An exponent never leaves the range of 32-bit integers. -/
def clampExponent (exponent : Int) : Int :=
  max (-2147483648) (min exponent 2147483647)

/-- Reads an exponent after its letter. -/
def readExponent (negative : Bool) (significand : Nat) (start : Int) (rest : Rest) :
    Except ReadError (Number × Rest) :=
  let (below, rest) :=
    match rest.characters with
    | '+' :: _ => (false, rest.skip)
    | '-' :: _ => (true, rest.skip)
    | _ => (false, rest)
  match rest.characters with
  | [] => rest.fail .endInValue
  | character :: _ =>
      if (digitValue? character).isNone then
        (Rest.skipBytes 1 rest.characters rest.position).fail .invalidNumber
      else
        match readExponentDigits rest.characters rest.position 0 with
        | (some exponent, rest) =>
            let total := clampExponent (if below then start - exponent else start + exponent)
            makeFloat negative significand total rest
        | (none, rest) =>
            if significand ≠ 0 ∧ ¬ below then rest.fail .numberOutOfRange
            else .ok (.float (Binary64.zero negative), skipDigits rest)

/-- Goes on with an exponent, if there is one. -/
def readOptionalExponent (negative : Bool) (significand : Nat) (exponent : Int) (rest : Rest) :
    Except ReadError (Number × Rest) :=
  match rest.characters with
  | 'e' :: _ => readExponent negative significand exponent rest.skip
  | 'E' :: _ => readExponent negative significand exponent rest.skip
  | _ => makeFloat negative significand exponent rest

/-- Reads digits into a significand as long as it stays below the bound of 64 bits. -/
def readSignificand : List Char → ReadPosition → Nat → Nat → Nat × Nat × Bool × Rest
  | [], position, value, count => (value, count, true, ⟨[], position⟩)
  | character :: characters, position, value, count =>
      match digitValue? character with
      | none => (value, count, true, ⟨character :: characters, position⟩)
      | some digit =>
          if greatestUnsigned < value * 10 + digit then
            (value, count, false, ⟨character :: characters, position⟩)
          else
            readSignificand characters (position.after character) (value * 10 + digit) (count + 1)

/-- Reads a fraction after its point. Digits that no longer fit the significand are ignored. -/
def readFraction (negative : Bool) (significand : Nat) (before : Int) (rest : Rest) :
    Except ReadError (Number × Rest) :=
  let (value, count, complete, rest) :=
    readSignificand rest.characters rest.position significand 0
  if complete then
    if count = 0 then
      match rest.characters with
      | [] => rest.failNext .endInValue
      | _ => rest.failNext .invalidNumber
    else readOptionalExponent negative value (before - count) rest
  else readOptionalExponent negative value (before - count) (skipDigits rest)

/-- Reads the digits of an integer that no longer fit its significand. -/
def readLongInteger (negative : Bool) (significand : Nat) (rest : Rest) :
    Except ReadError (Number × Rest) :=
  let after := skipDigits rest
  let count := rest.characters.length - after.characters.length
  match after.characters with
  | '.' :: _ => readFraction negative significand count after.skip
  | _ => readOptionalExponent negative significand count after

/-- A significand without fraction and exponent: an integer if it fits into 64 bits. -/
def wholeNumber (negative : Bool) (significand : Nat) : Number :=
  if negative then
    if significand = 0 ∨ Nat.pow 2 63 < significand then
      .float (((Binary64.ofNat significand).getD (Binary64.zero false)).neg)
    else .integer (-(significand : Int))
  else .integer significand

/-- Reads a number after its sign. -/
def readNumber (negative : Bool) (rest : Rest) : Except ReadError (Number × Rest) :=
  match rest.characters with
  | [] => rest.fail .endInValue
  | first :: characters =>
      match digitValue? first with
      | none => (Rest.skipBytes 1 rest.characters rest.position).fail .invalidNumber
      | some 0 =>
          match characters with
          | next :: _ =>
              if (digitValue? next).isSome then rest.skip.failNext .invalidNumber
              else finish 0 rest.skip
          | [] => finish 0 rest.skip
      | some _ =>
          let (value, _, complete, rest) :=
            readSignificand rest.characters rest.position 0 0
          if complete then finish value rest else readLongInteger negative value rest
where
  finish (significand : Nat) (rest : Rest) : Except ReadError (Number × Rest) :=
    match rest.characters with
    | '.' :: _ => readFraction negative significand 0 rest.skip
    | 'e' :: _ => readExponent negative significand 0 rest.skip
    | 'E' :: _ => readExponent negative significand 0 rest.skip
    | _ => .ok (wholeNumber negative significand, rest)

mutual

/-- Reads a value. The first number bounds the steps, the second the levels that may still open. -/
def readValue : Nat → Nat → Rest → Except ReadError (Json × Rest)
  | 0, _, rest => rest.fail .endInValue
  | fuel + 1, depth, rest =>
      let rest := rest.skipBlanks
      match rest.characters with
      | [] => rest.failNext .endInValue
      | 'n' :: _ => do return (null, ← readLetters ['u', 'l', 'l'] rest.skip)
      | 't' :: _ => do return (bool true, ← readLetters ['r', 'u', 'e'] rest.skip)
      | 'f' :: _ => do return (bool false, ← readLetters ['a', 'l', 's', 'e'] rest.skip)
      | '-' :: _ => do
          let (value, rest) ← readNumber true rest.skip
          return (number value, rest)
      | '"' :: _ => do
          let (value, rest) ← readString (rest.characters.length + 1) [] rest.skip
          return (string value, rest)
      | '[' :: _ =>
          match depth with
          | 0 => rest.failNext .tooDeep
          | depth + 1 => do
              let (items, rest) ← readItems fuel depth true rest.skip
              return (array items, rest)
      | '\x7b' :: _ =>
          match depth with
          | 0 => rest.failNext .tooDeep
          | depth + 1 => do
              let (members, rest) ← readMembers fuel depth true rest.skip
              return (ofMembers members, rest)
      | character :: _ =>
          if (digitValue? character).isSome then do
            let (value, rest) ← readNumber false rest
            return (number value, rest)
          else rest.failNext .expectedValue

/-- Reads the items of an array up to its end. -/
def readItems : Nat → Nat → Bool → Rest → Except ReadError (List Json × Rest)
  | 0, _, _, rest => rest.fail .endInList
  | fuel + 1, depth, first, rest => do
      let rest := rest.skipBlanks
      match rest.characters with
      | [] => rest.failNext .endInList
      | ']' :: _ => return ([], rest.skip)
      | character :: _ =>
          let rest ←
            if first then pure rest
            else if character = ',' then
              let rest := rest.skip.skipBlanks
              match rest.characters with
              | [] => rest.failNext .endInValue
              | ']' :: _ => rest.failNext .trailingComma
              | _ => pure rest
            else rest.failNext .expectedListCommaOrEnd
          let (item, rest) ← readValue fuel depth rest
          let (items, rest) ← readItems fuel depth false rest
          return (item :: items, rest)

/-- Reads the members of an object up to its end. -/
def readMembers : Nat → Nat → Bool → Rest → Except ReadError (List (String × Json) × Rest)
  | 0, _, _, rest => rest.fail .endInObject
  | fuel + 1, depth, first, rest => do
      let rest := rest.skipBlanks
      match rest.characters with
      | [] => rest.failNext .endInObject
      | '\x7d' :: _ => return ([], rest.skip)
      | character :: _ =>
          let rest ←
            if first then
              if character = '"' then pure rest else rest.failNext .keyNotString
            else if character = ',' then
              let rest := rest.skip.skipBlanks
              match rest.characters with
              | [] => rest.failNext .endInValue
              | '"' :: _ => pure rest
              | '\x7d' :: _ => rest.failNext .trailingComma
              | _ => rest.failNext .keyNotString
            else rest.failNext .expectedObjectCommaOrEnd
          let (key, rest) ← readString (rest.characters.length + 1) [] rest.skip
          let rest := rest.skipBlanks
          let rest ←
            match rest.characters with
            | [] => rest.failNext .endInObject
            | ':' :: _ => pure rest.skip
            | _ => rest.failNext .expectedColon
          let (value, rest) ← readValue fuel depth rest
          let (members, rest) ← readMembers fuel depth false rest
          return ((key, value) :: members, rest)

end

/-- The number of levels that a text may open. -/
def greatestDepth : Nat := 127

/-- Reads a text that holds one value. Each step but the last takes a character, so the number of
steps is bounded by the length. -/
def parse (text : String) : Except ReadError Json := do
  let rest := Rest.ofString text
  let (value, rest) ← readValue (2 * rest.characters.length + 4) greatestDepth rest
  let rest := rest.skipBlanks
  match rest.characters with
  | [] => return value
  | _ => rest.failNext .trailingCharacters

end ApiContract.Json
