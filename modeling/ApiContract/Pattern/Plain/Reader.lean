import ApiContract.Pattern.Plain.Basic

/-
This file holds the state of the reading of a plain pattern and the reading of its smallest parts.
In the spaced mode white space and comments are skipped almost everywhere.
-/

namespace ApiContract.Pattern.Plain

/-- Why a text is not read as a plain pattern. -/
inductive Refusal where
  | invalid
  /-- The text uses look-around or a back reference, which the plain grammar does not have. -/
  | beyond
  /-- An escaped `c` ends at a position. -/
  | control (position : Nat)
  deriving DecidableEq, Repr

/-- What stands for itself in a pattern, and for something else in a schema. -/
structure Occurrence where
  position : Nat
  negated : Bool
  letter : Letter
  deriving DecidableEq, Repr

/-- The text that is left, the position in the whole text, the mode, and what was seen so far. -/
structure State where
  rest : List Char
  position : Nat
  spaced : Bool
  groups : Nat
  names : List (List Char)
  /-- The class letters, the last one first. -/
  letters : List Occurrence
  /-- Whether the bell is written as an escape outside of a class. -/
  bell : Bool

abbrev Reader := StateT State (Except Refusal)

namespace Reader

def refuse {α : Type} : Reader α := throw .invalid

def peek : Reader (Option Char) := do return (← get).rest.head?

/-- The next character, which has to exist. -/
def next : Reader Char := do
  match (← get).rest with
  | character :: _ => return character
  | [] => refuse

def bump : Reader Unit := modify fun state =>
  { state with rest := state.rest.drop 1, position := state.position + 1 }

/-- What follows a comment. -/
def afterComment (text : List Char) : List Char := (text.dropWhile (· != '\n')).drop 1

/-- What follows white space and comments. The number bounds the count of the comments. -/
def afterSpace : Nat → List Char → List Char
  | 0, text => text
  | fuel + 1, text =>
      match text.dropWhile Unicode.isWhiteSpace with
      | '#' :: rest => afterSpace fuel (afterComment rest)
      | rest => rest

/-- Skips white space and comments in the spaced mode. -/
def skipSpace : Reader Unit := modify fun state =>
  if state.spaced then
    let rest := afterSpace (state.rest.length + 1) state.rest
    { state with rest := rest, position := state.position + (state.rest.length - rest.length) }
  else state

def bumpAndSkip : Reader Unit := do
  bump
  skipSpace

/-- Takes a text if it stands next. -/
def take (text : String) : Reader Bool := do
  let state ← get
  if text.toList.isPrefixOf state.rest then
    let count := text.length
    set { state with rest := state.rest.drop count, position := state.position + count }
    return true
  else return false

/-- The character after the next one. In the spaced mode white space does not count, and of a
comment only its mark. -/
def peekSecond : Reader (Option Char) := do
  let state ← get
  let after := state.rest.drop 1
  if state.spaced then
    match after.dropWhile Unicode.isWhiteSpace with
    | '#' :: rest => return (rest.dropWhile Unicode.isWhiteSpace).head?
    | rest => return rest.head?
  else return after.head?

end Reader

open Reader

def isHex (character : Char) : Bool :=
  character.isDigit || ('a' ≤ character && character ≤ 'f') || ('A' ≤ character && character ≤ 'F')

def hexNumber (digits : List Char) : Nat :=
  digits.foldl
    (fun value digit =>
      value * 16 +
        (if digit.isDigit then digit.toNat - 48 else digit.toLower.toNat - 87)) 0

def decimalNumber (digits : List Char) : Nat :=
  digits.foldl (fun value digit => value * 10 + (digit.toNat - 48)) 0

/-- The character with a code point, if there is one. -/
def character? (digits : List Char) : Option Char :=
  let code := hexNumber digits
  if h : code.isValidChar then some (Char.ofNatAux code h) else none

/-- Reads characters with a property; white space between them is skipped in the spaced mode. -/
def readWhile (accepts : Char → Bool) : Nat → Reader (List Char)
  | 0 => return []
  | fuel + 1 => do
      match ← peek with
      | some character =>
          if accepts character then
            bumpAndSkip
            return character :: (← readWhile accepts fuel)
          else return []
      | none => return []

def remaining : Reader Nat := do return (← get).rest.length + 1

/-- Reads a count of at most 32 bits between white space; `none` if there is no digit. -/
def readCount : Reader (Option Nat) := do
  modify fun state =>
    let rest := state.rest.dropWhile Unicode.isWhiteSpace
    { state with rest := rest, position := state.position + (state.rest.length - rest.length) }
  let digits ← readWhile Char.isDigit (← remaining)
  let _ ← readWhile Unicode.isWhiteSpace (← remaining)
  if digits.isEmpty then return none
  else if decimalNumber digits < Nat.pow 2 32 then return some (decimalNumber digits)
  else refuse

/-- Reads a fixed number of hexadecimal digits. -/
def readHexDigits : Nat → Reader (List Char)
  | 0 => return []
  | count + 1 => do
      let digit ← next
      if !isHex digit then refuse
      bumpAndSkip
      return digit :: (← readHexDigits count)

/-- Reads the code of a character: a fixed number of digits, or any number of them in braces. -/
def readCode (count : Nat) : Reader Char := do
  bumpAndSkip
  let digits ←
    match ← next with
    | '\x7b' => do
        bumpAndSkip
        let digits ← readWhile isHex (← remaining)
        if (← next) != '\x7d' ∨ digits.isEmpty then refuse
        bumpAndSkip
        pure digits
    | _ => readHexDigits count
  match character? digits with
  | some character => return character
  | none => refuse

/-- The parts of a list before and after the first occurrence of a mark. -/
def splitAtMark (mark : List Char) : List Char → Option (List Char × List Char)
  | [] => none
  | character :: rest =>
      if mark.isPrefixOf (character :: rest) then
        some ([], (character :: rest).drop mark.length)
      else (splitAtMark mark rest).map fun (before, after) => (character :: before, after)

/-- The query of the text between the braces of a property, and whether it is negated. -/
def queryOf (text : List Char) : Bool × Query :=
  match splitAtMark ['!', '='] text with
  | some (name, value) => (true, .valued name value)
  | none =>
      match splitAtMark [':'] text <|> splitAtMark ['='] text with
      | some (name, value) => (false, .valued name value)
      | none => (false, .named text)

/-- Reads a property from its letter on. -/
def readProperty : Reader (Bool × Query) := do
  let negated := (← next) == 'P'
  bumpAndSkip
  match ← next with
  | '\x7b' => do
      bumpAndSkip
      let name ← readWhile (· != '\x7d') (← remaining)
      let _ ← next
      bump
      let (differs, query) := queryOf name
      return (negated != differs, query)
  | '\\' => refuse
  | letter => do
      bumpAndSkip
      return (negated, .named [letter])

/-- An item that stands for a place or for one character. -/
inductive Item where
  | literal (character : Char)
  | anchor (kind : Anchor)
  | letter (negated : Bool) (letter : Letter)
  | property (negated : Bool) (query : Query)

/-- The characters that single letters stand for. -/
def letterCharacter? (letter : Char) : Option Char :=
  match letter with
  | 'a' => some '\x07'
  | 'f' => some '\x0c'
  | 'n' => some '\n'
  | 'r' => some '\r'
  | 't' => some '\t'
  | 'v' => some '\x0b'
  | _ => none

def classLetter? (letter : Char) : Option (Bool × Letter) :=
  match letter with
  | 'd' => some (false, .digit)
  | 'D' => some (true, .digit)
  | 's' => some (false, .space)
  | 'S' => some (true, .space)
  | 'w' => some (false, .word)
  | 'W' => some (true, .word)
  | _ => none

def letterAnchor? (letter : Char) : Option Anchor :=
  match letter with
  | 'A' => some .textStart
  | 'z' => some .textEnd
  | 'B' => some .noWordBoundary
  | '<' => some .wordStart
  | '>' => some .wordEnd
  | _ => none

/-- The special word boundaries, by the name in braces. -/
def namedAnchor? (name : String) : Option Anchor :=
  match name with
  | "start" => some .wordStart
  | "end" => some .wordEnd
  | "start-half" => some .wordStartHalf
  | "end-half" => some .wordEndHalf
  | _ => none

def isAnchorLetter (character : Char) : Bool := character.isAlpha || character == '-'

/-- Reads what may follow the letter of a word boundary: a name in braces. Braces with anything else
are left to a repetition. -/
def readBoundary : Reader Anchor := do
  let before ← get
  if before.rest.head? != some '\x7b' then return .wordBoundary
  bumpAndSkip
  if !isAnchorLetter (← next) then
    set before
    return .wordBoundary
  let name ← readWhile isAnchorLetter (← remaining)
  if (← next) != '\x7d' then refuse
  bump
  match namedAnchor? (String.ofList name) with
  | some kind => return kind
  | none => refuse

/-- Whether a backslash before a character leaves the character as it is. -/
def isEscapable (character : Char) : Bool :=
  character.toNat < 128 && !character.isAlphanum && character != '<' && character != '>'

/-- Reads an escape, from its backslash on. -/
def readEscape (inClass : Bool) : Reader Item := do
  let start := (← get).position
  bump
  let letter ← next
  if letter.isDigit then throw .beyond
  match letter with
  | 'x' => return .literal (← readCode 2)
  | 'u' => return .literal (← readCode 4)
  | 'U' => return .literal (← readCode 8)
  | 'p' | 'P' =>
      let (negated, query) ← readProperty
      return .property negated query
  | _ =>
      bump
      if let some (negated, kind) := classLetter? letter then
        modify fun state => { state with letters := ⟨start, negated, kind⟩ :: state.letters }
        return .letter negated kind
      if isEscapable letter then return .literal letter
      if let some character := letterCharacter? letter then
        if letter == 'a' ∧ !inClass then modify fun state => { state with bell := true }
        return .literal character
      if let some kind := letterAnchor? letter then return .anchor kind
      if letter == 'b' then return .anchor (← readBoundary)
      if letter == 'c' then throw (.control (← get).position)
      refuse

end ApiContract.Pattern.Plain
