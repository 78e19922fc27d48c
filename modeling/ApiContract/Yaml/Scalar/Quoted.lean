import ApiContract.Yaml.Scalar.Gap

/-
This file reads quoted scalars. A single quote is written twice; between double quotes a backslash
starts an escape.
-/

namespace ApiContract.Yaml.Quoted

/-- The character of a short escape. -/
def shortEscape? (character : Char) : Option Char :=
  match character with
  | '0' => some '\x00'
  | 'a' => some '\x07'
  | 'b' => some '\x08'
  | 't' => some '\t'
  | '\t' => some '\t'
  | 'n' => some '\n'
  | 'v' => some '\x0b'
  | 'f' => some '\x0c'
  | 'r' => some '\r'
  | 'e' => some '\x1b'
  | ' ' => some ' '
  | '"' => some '"'
  | '/' => some '/'
  | '\\' => some '\\'
  | 'N' => some '\u0085'
  | '_' => some '\u00a0'
  | 'L' => some '\u2028'
  | 'P' => some '\u2029'
  | _ => none

/-- The number of digits of a numeric escape. -/
def escapeLength? (character : Char) : Option Nat :=
  match character with
  | 'x' => some 2
  | 'u' => some 4
  | 'U' => some 8
  | _ => none

/-- Reads the digits of a numeric escape. -/
def readCode (start : Mark) (length : Nat) (cursor : Cursor) : Except Fault (Char × Cursor) :=
  match (cursor.rest.take length).mapM Text.hexValue? with
  | none => cursor.failIn .quotedEscape start .missingHexNumber
  | some digits =>
      if digits.length < length then cursor.failIn .quotedEscape start .missingHexNumber
      else
        let code := digits.foldl (fun value digit => value * 16 + digit) 0
        if (0xD800 ≤ code ∧ code ≤ 0xDFFF) ∨ 0x10FFFF < code then
          cursor.failIn .quotedEscape start .invalidCodePoint
        else .ok (Char.ofNat code, cursor.skipMany length)

/-- Reads an escape, from its backslash on. -/
def readEscape (start : Mark) (cursor : Cursor) : Except Fault (Char × Cursor) :=
  match cursor.rest[1]? with
  | none => cursor.failIn .quotedEscape start .unknownEscape
  | some character =>
      match shortEscape? character, escapeLength? character with
      | some value, _ => .ok (value, cursor.skipMany 2)
      | none, some length => readCode start length (cursor.skipMany 2)
      | none, none => cursor.failIn .quotedEscape start .unknownEscape

/-- Reads characters up to the next gap or the closing quote, onto the reversed text. Tells also
whether they end with an escaped break. -/
def readWord (single : Bool) (start : Mark) :
    Nat → List Char → Cursor → Except Fault (List Char × Bool × Cursor)
  | 0, reversed, cursor => .ok (reversed, false, cursor)
  | fuel + 1, reversed, cursor =>
      match cursor.rest with
      | [] => .ok (reversed, false, cursor)
      | character :: rest =>
          if Cursor.isBlankOrBreak character then .ok (reversed, false, cursor)
          else if single then
            if character = '\'' then
              if rest.head? = some '\'' then
                readWord single start fuel ('\'' :: reversed) (cursor.skipMany 2)
              else .ok (reversed, false, cursor)
            else readWord single start fuel (character :: reversed) cursor.skip
          else if character = '"' then .ok (reversed, false, cursor)
          else if character = '\\' then
            if rest.head?.any isBreak then .ok (reversed, true, cursor.skip.skipLine)
            else do
              let (value, cursor) ← readEscape start cursor
              readWord single start fuel (value :: reversed) cursor
          else readWord single start fuel (character :: reversed) cursor.skip

/-- Reads the words and gaps of a quoted scalar up to its closing quote. -/
def readWords (single : Bool) (start : Mark) :
    Nat → List Char → Cursor → Except Fault (List Char × Cursor)
  | 0, reversed, cursor => .ok (reversed, cursor)
  | fuel + 1, reversed, cursor =>
      if cursor.atDocumentMark then cursor.failIn .quotedScalar start .documentMarkInQuotes
      else if cursor.atEnd then cursor.failIn .quotedScalar start .endInQuotes
      else do
        let (reversed, escaped, cursor) ←
          readWord single start (cursor.rest.length + 1) reversed cursor
        if cursor.lookingAt (if single then '\'' else '"') then return (reversed, cursor.skip)
        else
          let before := if escaped then Gap.escapedBreak else Gap.none
          let (gap, cursor) ← Gap.read none (cursor.rest.length + 1) before cursor
          readWords single start fuel (gap.text.reverse ++ reversed) cursor

/-- Reads a quoted scalar. -/
def read (single : Bool) (cursor : Cursor) : Except Fault (String × Cursor) := do
  let (reversed, cursor) ←
    readWords single cursor.mark (cursor.rest.length + 1) [] cursor.skip
  return (String.ofList reversed.reverse, cursor)

end ApiContract.Yaml.Quoted
