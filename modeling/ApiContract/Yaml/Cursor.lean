import ApiContract.Text.Basic
import ApiContract.Yaml.Fault

/-
This file holds the cursor with which a text is read, and the classes of characters.
-/

namespace ApiContract.Yaml

def isBlank (character : Char) : Bool := character == ' ' || character == '\t'

def isBreak (character : Char) : Bool :=
  character == '\n' || character == '\r' || character == '\u0085' || character == '\u2028' ||
    character == '\u2029'

/-- The characters of names. -/
def isNameCharacter (character : Char) : Bool :=
  character.isAlphanum || character == '_' || character == '-'

/-- The characters that a stream may hold. -/
def isAllowed (character : Char) : Bool :=
  let code := character.toNat
  code == 0x9 || code == 0xA || code == 0xD || (0x20 ≤ code && code ≤ 0x7E) || code == 0x85 ||
    (0xA0 ≤ code && code ≤ 0xD7FF) || (0xE000 ≤ code && code ≤ 0xFFFD) || 0x10000 ≤ code

/-- The rest of a text and the place of its first character. -/
structure Cursor where
  rest : List Char
  mark : Mark
  deriving Repr

namespace Cursor

/-- Steps over one character of a line. -/
def skip (cursor : Cursor) : Cursor :=
  match cursor.rest with
  | [] => cursor
  | _ :: rest =>
      ⟨rest, { cursor.mark with index := cursor.mark.index + 1, column := cursor.mark.column + 1 }⟩

def skipMany : Nat → Cursor → Cursor
  | 0, cursor => cursor
  | count + 1, cursor => skipMany count cursor.skip

/-- Steps over a line break; a carriage return and a line feed are one. -/
def skipLine (cursor : Cursor) : Cursor :=
  match cursor.rest with
  | '\r' :: '\n' :: rest => ⟨rest, ⟨cursor.mark.index + 2, cursor.mark.line + 1, 0⟩⟩
  | character :: rest =>
      if isBreak character then ⟨rest, ⟨cursor.mark.index + 1, cursor.mark.line + 1, 0⟩⟩ else cursor
  | [] => cursor

/-- The text of the line break at the cursor. Only the separators of lines and paragraphs keep
theirs. -/
def breakText (cursor : Cursor) : List Char :=
  match cursor.rest with
  | [] => []
  | character :: _ =>
      if character == '\u2028' || character == '\u2029' then [character]
      else if isBreak character then ['\n']
      else []

def lookingAt (cursor : Cursor) (character : Char) : Bool := cursor.rest.head? == some character

def test (cursor : Cursor) (accepts : Char → Bool) : Bool := cursor.rest.head?.any accepts

def atEnd (cursor : Cursor) : Bool := cursor.rest.isEmpty

def atBreakOrEnd (cursor : Cursor) : Bool := cursor.rest.head?.all isBreak

def isBlankOrBreak (character : Char) : Bool := isBlank character || isBreak character

/-- Whether there is a blank, a break or the end some characters ahead. -/
def isGapAhead (cursor : Cursor) (distance : Nat) : Bool :=
  cursor.rest[distance]?.all isBlankOrBreak

/-- Whether three equal characters stand alone at the start of a line. -/
def atTriple (cursor : Cursor) (character : Char) : Bool :=
  cursor.mark.column == 0 && cursor.rest.take 3 == [character, character, character] &&
    cursor.isGapAhead 3

/-- Whether the cursor is at the mark of a document. -/
def atDocumentMark (cursor : Cursor) : Bool := cursor.atTriple '-' || cursor.atTriple '.'

/-- Steps over characters of one line as long as they are accepted. -/
def skipWhile (accepts : Char → Bool) (cursor : Cursor) : Cursor :=
  skipMany (cursor.rest.takeWhile accepts).length cursor

/-- Steps over a comment. -/
def skipComment (cursor : Cursor) : Cursor :=
  if cursor.lookingAt '#' then cursor.skipWhile fun character => !isBreak character else cursor

/-- A problem at the cursor, without a context. -/
def fail {α : Type} (cursor : Cursor) (problem : Problem) : Except Fault α :=
  .error (.at problem cursor.mark none)

/-- A problem at the cursor, in what was begun at another place. -/
def failIn {α : Type} (cursor : Cursor) (activity : Activity) (start : Mark) (problem : Problem) :
    Except Fault α :=
  .error (.at problem cursor.mark (some (activity, start)))

/-- Steps over the end of a line that holds nothing more than a comment. -/
def endLine (cursor : Cursor) (activity : Activity) (start : Mark) : Except Fault Cursor :=
  let cursor := (cursor.skipWhile isBlank).skipComment
  if cursor.atBreakOrEnd then .ok cursor.skipLine
  else cursor.failIn activity start .missingLineEnd

end Cursor

end ApiContract.Yaml
