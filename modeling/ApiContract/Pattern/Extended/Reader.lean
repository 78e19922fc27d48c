import ApiContract.Pattern.Extended.Basic

/-
This file holds the state of the reading of an extended pattern, and reads notes, counts, names,
escapes and classes.
-/

namespace ApiContract.Pattern.Extended

open Plain (isHex hexNumber decimalNumber splitAtMark letterCharacter?)

/-- The flags that are in force. -/
structure Flags where
  anyCase : Bool
  manyLines : Bool
  dotAll : Bool
  swapGreed : Bool
  spaced : Bool
  deriving DecidableEq, Repr

/-- The text that is left, the flags, and what was seen so far. -/
structure State where
  rest : List Char
  flags : Flags
  groups : Nat
  names : List (List Char × Nat)
  references : List Nat
  /-- Whether a reference is a bare number. -/
  numbered : Bool
  /-- The number of bytes of the whole text. -/
  size : Nat

abbrev Reader := StateT State Option

namespace Reader

def refuse {α : Type} : Reader α := fun _ => none

def rest : Reader (List Char) := do return (← get).rest

def setRest (text : List Char) : Reader Unit := modify fun state => { state with rest := text }

def flags : Reader Flags := do return (← get).flags

/-- Takes a text if it stands next. -/
def take (text : String) : Reader Bool := do
  let rest ← rest
  if text.toList.isPrefixOf rest then
    setRest (rest.drop text.length)
    return true
  else return false

def expect (text : String) : Reader Unit := do
  if !(← take text) then refuse

end Reader

open Reader

/-- What follows a note; a backslash hides the character after it. -/
def afterNote : List Char → Option (List Char)
  | [] => none
  | ')' :: rest => some rest
  | '\\' :: _ :: rest => afterNote rest
  | _ :: rest => afterNote rest

/-- What follows notes and, in the spaced mode, white space and comments. The number bounds the
steps. -/
def afterGap (spaced : Bool) : Nat → List Char → Option (List Char)
  | 0, text => some text
  | fuel + 1, text =>
      match text with
      | '(' :: '?' :: '#' :: rest => afterNote rest >>= afterGap spaced fuel
      | '#' :: rest =>
          if spaced then afterGap spaced fuel (Plain.Reader.afterComment rest) else some text
      | character :: rest =>
          if spaced ∧ character ∈ [' ', '\r', '\n', '\t'] then afterGap spaced fuel rest
          else some text
      | [] => some []

/-- Skips notes and, in the spaced mode, white space and comments. -/
def skipGap : Reader Unit := do
  let state ← get
  match afterGap state.flags.spaced (state.rest.length + 1) state.rest with
  | some rest => setRest rest
  | none => refuse

/-- The greatest count; a repetition with it has no bound. -/
def greatestCount : Nat := Nat.pow 2 64 - 1

/-- Reads a number of at most 64 bits. -/
def readNumber? : Reader (Option Nat) := do
  let rest ← rest
  let digits := rest.takeWhile Char.isDigit
  let number := decimalNumber digits
  if digits.isEmpty ∨ greatestCount < number then return none
  setRest (rest.drop digits.length)
  return some number

/-- Reads the counts of a repetition after its brace. -/
def readCountsAfterBrace : Reader (Nat × Option Nat) := do
  skipGap
  let least ←
    if (← rest).head? == some ',' then pure 0
    else
      match ← readNumber? with
      | some least => pure least
      | none => refuse
  skipGap
  let most ←
    if ← take "," then do
      skipGap
      pure ((← readNumber?).filter (· < greatestCount))
    else pure (some least)
  skipGap
  expect "\x7d"
  return (least, most)

/-- Reads the counts of a repetition; `none` if the brace stands for itself. -/
def readCounts? : Reader (Option (Nat × Option Nat)) := fun state =>
  match (readCountsAfterBrace.run { state with rest := state.rest.drop 1 }) with
  | some (counts, state) => some (some counts, state)
  | none => some (none, state)

def isNameCharacter (character : Char) : Bool :=
  character == '_' || Unicode.isAlphanumeric character

/-- Reads a name between marks. A name of a reference may be a number below zero, which counts
groups back. -/
def readName (start close : String) (relative : Bool) : Reader (List Char) := do
  expect start
  let text ← rest
  let sign := if relative ∧ text.head? = some '-' then ['-'] else []
  let name := (text.drop sign.length).takeWhile isNameCharacter
  setRest (text.drop (sign.length + name.length))
  expect close
  if name.isEmpty then refuse
  return sign ++ name

/-- The group of a name: a group with that name, or the one with that number, counted back from the
last one if it is negative. -/
def groupOf? (state : State) (name : List Char) : Option Nat :=
  match state.names.lookup name with
  | some index => some index
  | none =>
      match name with
      | '-' :: digits =>
          let back := decimalNumber digits
          if digits.all Char.isDigit ∧ back ≤ state.groups + 1 then some (state.groups + 1 - back)
          else none
      | digits => if digits.all Char.isDigit then some (decimalNumber digits) else none

/-- Notes a reference to a group, which has to be open or closed already. -/
def referTo (index : Nat) : Reader Nat := do
  let state ← get
  if state.groups < index then refuse
  set { state with references := index :: state.references }
  return index

/-- Reads a reference by number. -/
def readNumberedReference : Reader Nat := do
  match ← readNumber? with
  | some index =>
      let state ← get
      if index < state.size / 2 then
        set { state with numbered := true }
        referTo index
      else refuse
  | none => refuse

/-- Reads a reference by name. -/
def readNamedReference (start close : String) (relative : Bool) : Reader Nat := do
  let name ← readName start close relative
  match groupOf? (← get) name with
  | some index => referTo index
  | none => refuse

/-- Reads the code of a character: a fixed number of digits, or up to eight in braces. -/
def readCode (count : Nat) : Reader Char := do
  let text ← rest
  let digits := text.take count
  let found :=
    if digits.length = count ∧ digits.all isHex then some (digits, text.drop count)
    else
      match text with
      | '\x7b' :: braced =>
          let digits := braced.takeWhile isHex
          match braced.drop digits.length with
          | '\x7d' :: rest =>
              if digits.isEmpty ∨ 8 < digits.length then none else some (digits, rest)
          | _ => none
      | _ => none
  match found with
  | some (digits, rest) =>
      setRest rest
      match Plain.character? digits with
      | some character => return character
      | none => refuse
  | none => refuse

/-- Reads the property after a letter, and returns its text with the letter and a backslash. -/
def readPropertySource (letter : Char) : Reader (List Char) := do
  match ← rest with
  | '\x7b' :: braced =>
      match splitAtMark ['\x7d'] braced with
      | some (name, rest) =>
          setRest rest
          return '\\' :: letter :: '\x7b' :: name ++ ['\x7d']
      | none => refuse
  | character :: rest =>
      setRest rest
      return ['\\', letter, character]
  | [] => refuse

/-- The places that letters stand for outside of classes. -/
def letterAnchor? (letter : Char) : Option Anchor :=
  match letter with
  | 'A' => some .textStart
  | 'z' => some .textEnd
  | 'b' => some .wordBoundary
  | 'B' => some .noWordBoundary
  | '<' => some .wordStart
  | '>' => some .wordEnd
  | _ => none

/-- The character of an escape with no other meaning. Letters have none, but for those that name
places outside of classes. -/
def plainEscape? (letter : Char) : Option Char :=
  match letter with
  | 'b' => some '\x08'
  | 'e' => some '\x1b'
  | _ =>
      match letterCharacter? letter with
      | some character => some character
      | none =>
          if letter.isAlpha ∧ ¬ "kAzBKG".toList.contains letter then none else some letter

/-- Reads an escape after its backslash. -/
def readEscape (inClass : Bool) : Reader Expression := do
  let anyCase := (← flags).anyCase
  match ← rest with
  | [] => refuse
  | letter :: after =>
      if letter.isDigit then return .reference (← readNumberedReference)
      setRest after
      if letter == 'k' ∧ !inClass then
        if after.head? == some '\'' then
          return .reference (← readNamedReference "'" "'" true)
        return .reference (← readNamedReference "<" ">" true)
      if let some kind := (letterAnchor? letter).filter fun _ => !inClass then
        if (letter == 'b' ∨ letter == 'B') ∧ after.head? == some '\x7b' then refuse
        return .anchor kind
      if "dswDSW".toList.contains letter then return .plain ['\\', letter] anyCase
      if letter == 'h' then return .plain "[0-9A-Fa-f]".toList false
      if letter == 'H' then return .plain "[^0-9A-Fa-f]".toList false
      if letter == 'x' then return .literal (← readCode 2) anyCase
      if letter == 'u' then return .literal (← readCode 4) anyCase
      if letter == 'U' then return .literal (← readCode 8) anyCase
      if (letter == 'p' ∨ letter == 'P') ∧ !after.isEmpty then
        return .plain (← readPropertySource letter) anyCase
      if letter == 'K' ∧ !inClass then return .keep
      if letter == 'G' ∧ !inClass then return .resume
      match plainEscape? letter with
      | some character => return .literal character anyCase
      | none => refuse

/-- The characters that are escaped in a class. -/
def classQuoted (character : Char) : List Char :=
  if "\\.+*?()|[]\x7b\x7d^$#&-~".toList.contains character then ['\\', character] else [character]

/-- Reads the inside of a class, where brackets lie inside one another, and returns its text for the
plain grammar with the closing bracket. The first number bounds the steps. -/
def readClassInside : Nat → Nat → Reader (List Char)
  | 0, _ => refuse
  | fuel + 1, depth => do
      skipGap
      match ← rest with
      | [] => refuse
      | '\\' :: after =>
          setRest after
          let source ←
            match ← readEscape true with
            | .literal character _ => pure (classQuoted character)
            | .plain source _ => pure source
            | _ => refuse
          return source ++ (← readClassInside fuel depth)
      | '[' :: after =>
          setRest after
          return '[' :: (← readClassInside fuel (depth + 1))
      | ']' :: after =>
          setRest after
          match depth with
          | 0 => return [']']
          | depth + 1 => return ']' :: (← readClassInside fuel depth)
      | character :: after =>
          setRest after
          return character :: (← readClassInside fuel depth)

/-- Reads a class from its bracket on. A closing bracket at the start stands for itself. -/
def readClass : Reader Expression := do
  let anyCase := (← flags).anyCase
  expect "["
  let negation := if ← take "^" then ['^'] else []
  let bracket := if ← take "]" then [']'] else []
  let inside ← readClassInside ((← rest).length + 1) 0
  return .plain ('[' :: negation ++ bracket ++ inside) anyCase

end ApiContract.Pattern.Extended
