import ApiContract.Yaml.Scalar.Gap

/-
This file reads plain scalars. A plain scalar ends at a comment, at a colon before a gap, in a flow
collection at one of its marks, and in a block at a line that is not indented enough.
-/

namespace ApiContract.Yaml.Plain

def isFlowMark (character : Char) : Bool :=
  character == ',' || character == '[' || character == ']' || character == '\x7b' ||
    character == '\x7d'

/-- Reads the characters up to the next gap or the end of the scalar. -/
def readWord (flow : Bool) (start : Mark) : List Char → Mark → Except Fault (List Char × Cursor)
  | [], mark => .ok ([], ⟨[], mark⟩)
  | character :: rest, mark =>
      let cursor : Cursor := ⟨character :: rest, mark⟩
      if Cursor.isBlankOrBreak character then .ok ([], cursor)
      else if flow ∧ character = ':' ∧
          rest.head?.any (fun next => isFlowMark next || next == '?') then
        cursor.failIn .plainScalar start .unexpectedColon
      else if (character = ':' ∧ cursor.isGapAhead 1) ∨ (flow ∧ isFlowMark character) then
        .ok ([], cursor)
      else do
        let (word, cursor) ← readWord flow start rest cursor.skip.mark
        return (character :: word, cursor)

/-- Reads words and the gaps between them. Tells also whether the scalar ends after a break. -/
def readWords (flow : Bool) (indent : Int) (start : Mark) :
    Nat → List Char → Gap → Cursor → Except Fault (List Char × Bool × Cursor)
  | 0, reversed, gap, cursor => .ok (reversed, gap.broken, cursor)
  | fuel + 1, reversed, gap, cursor =>
      if cursor.atDocumentMark || cursor.lookingAt '#' then .ok (reversed, gap.broken, cursor)
      else do
        let (word, cursor) ← readWord flow start cursor.rest cursor.mark
        let joined :=
          if word.isEmpty then reversed else word.reverse ++ gap.text.reverse ++ reversed
        let broken := if word.isEmpty then gap.broken else false
        if !cursor.test Cursor.isBlankOrBreak then return (joined, broken, cursor)
        else
          let (gap, cursor) ←
            Gap.read (some (indent, start)) (cursor.rest.length + 1) .none cursor
          if !flow && (cursor.mark.column : Int) < indent then return (joined, gap.broken, cursor)
          else readWords flow indent start fuel joined gap cursor

/-- Reads a plain scalar. -/
def read (flow : Bool) (indent : Int) (cursor : Cursor) :
    Except Fault (String × Bool × Cursor) := do
  let (reversed, broken, cursor) ←
    readWords flow indent cursor.mark (cursor.rest.length + 1) [] .none cursor
  return (String.ofList reversed.reverse, broken, cursor)

end ApiContract.Yaml.Plain
