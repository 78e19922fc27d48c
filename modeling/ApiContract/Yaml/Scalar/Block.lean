import ApiContract.Yaml.Cursor

/-
This file reads block scalars. The lines of a literal scalar stay as they are; those of a folded one
are joined by spaces, unless one of them starts with a blank.
-/

namespace ApiContract.Yaml.Block

/-- What happens to the breaks at the end of a block scalar. -/
inductive Chomping where
  | strip
  | clip
  | keep
  deriving DecidableEq, Repr

structure Header where
  chomping : Chomping
  increment : Nat

def chomping? (cursor : Cursor) : Option Chomping :=
  if cursor.lookingAt '+' then some .keep
  else if cursor.lookingAt '-' then some .strip
  else none

/-- Reads an indentation indicator, if there is one. -/
def readIncrement (start : Mark) (cursor : Cursor) : Except Fault (Option Nat × Cursor) :=
  match cursor.rest with
  | '0' :: _ => cursor.failIn .blockScalar start .zeroIndentation
  | character :: _ =>
      if character.isDigit then .ok (some (character.toNat - 48), cursor.skip)
      else .ok (none, cursor)
  | [] => .ok (none, cursor)

/-- Reads the indicators after the mark of a block scalar, in either order. -/
def readHeader (start : Mark) (cursor : Cursor) : Except Fault (Header × Cursor) := do
  match chomping? cursor with
  | some chomping =>
      let (increment, cursor) ← readIncrement start cursor.skip
      return (⟨chomping, increment.getD 0⟩, cursor)
  | none =>
      match ← readIncrement start cursor with
      | (none, cursor) => return (⟨.clip, 0⟩, cursor)
      | (some increment, cursor) =>
          match chomping? cursor with
          | some chomping => return (⟨chomping, increment⟩, cursor.skip)
          | none => return (⟨.clip, increment⟩, cursor)

/-- Steps over the spaces of an indentation; with an indentation of zero, over all spaces. -/
def skipIndentation (indent : Nat) : Nat → Cursor → Cursor
  | 0, cursor => cursor
  | fuel + 1, cursor =>
      if (indent = 0 ∨ cursor.mark.column < indent) ∧ cursor.lookingAt ' ' then
        skipIndentation indent fuel cursor.skip
      else cursor

/-- Reads empty lines. The greatest column that their spaces reach is found on the way. -/
def readEmptyLines (start : Mark) (indent : Nat) :
    Nat → Nat → List Char → Cursor → Except Fault (Nat × List Char × Cursor)
  | 0, greatest, breaks, cursor => .ok (greatest, breaks, cursor)
  | fuel + 1, greatest, breaks, cursor =>
      let cursor := skipIndentation indent (cursor.rest.length + 1) cursor
      let greatest := max greatest cursor.mark.column
      if (indent = 0 ∨ cursor.mark.column < indent) ∧ cursor.lookingAt '\t' then
        cursor.failIn .blockScalar start .tabInIndentation
      else if cursor.test isBreak then
        readEmptyLines start indent fuel greatest (breaks ++ cursor.breakText) cursor.skipLine
      else .ok (greatest, breaks, cursor)

/-- Reads empty lines and settles the indentation if it is not known yet. -/
def readBreaks (start : Mark) (parent : Int) (indent : Nat) (cursor : Cursor) :
    Except Fault (Nat × List Char × Cursor) := do
  let (greatest, breaks, cursor) ←
    readEmptyLines start indent (cursor.rest.length + 1) 0 [] cursor
  let settled := if indent = 0 then max (max greatest (parent + 1).toNat) 1 else indent
  return (settled, breaks, cursor)

/-- What was read of a block scalar: the text in reverse, the break after its last line, the breaks
of the empty lines after that, and whether the last line started with a blank. -/
structure Lines where
  reversed : List Char
  lineBreak : List Char
  emptyLines : List Char
  blankStart : Bool

/-- The text up to the next line, which may start with a blank. -/
def joinLines (literal : Bool) (lines : Lines) (blankStart : Bool) : List Char :=
  let folds := !literal && lines.lineBreak.head? == some '\n' && !lines.blankStart && !blankStart
  let between :=
    if folds then if lines.emptyLines.isEmpty then [' '] else []
    else lines.lineBreak
  (between ++ lines.emptyLines).reverse ++ lines.reversed

/-- Reads the lines at the indentation. -/
def readLines (literal : Bool) (start : Mark) (parent : Int) (indent : Nat) :
    Nat → Lines → Cursor → Except Fault (Lines × Cursor)
  | 0, lines, cursor => .ok (lines, cursor)
  | fuel + 1, lines, cursor =>
      if cursor.mark.column ≠ indent ∨ cursor.atEnd then .ok (lines, cursor)
      else do
        let blankStart := cursor.test isBlank
        let joined := joinLines literal lines blankStart
        let line := cursor.rest.takeWhile fun character => !isBreak character
        let cursor := cursor.skipMany line.length
        let lineBreak := cursor.breakText
        let (_, emptyLines, cursor) ← readBreaks start parent indent cursor.skipLine
        let next : Lines := ⟨line.reverse ++ joined, lineBreak, emptyLines, blankStart⟩
        readLines literal start parent indent fuel next cursor

/-- Reads a block scalar inside a block with the given indentation. -/
def read (literal : Bool) (parent : Int) (cursor : Cursor) : Except Fault (String × Cursor) := do
  let start := cursor.mark
  let (header, cursor) ← readHeader start cursor.skip
  let cursor ← cursor.endLine .blockScalar start
  let indent := if header.increment = 0 then 0 else (max parent 0).toNat + header.increment
  let (indent, breaks, cursor) ← readBreaks start parent indent cursor
  let (lines, cursor) ←
    readLines literal start parent indent (cursor.rest.length + 1) ⟨[], [], breaks, false⟩ cursor
  let tail :=
    match header.chomping with
    | .strip => []
    | .clip => lines.lineBreak
    | .keep => lines.lineBreak ++ lines.emptyLines
  return (String.ofList (tail.reverse ++ lines.reversed).reverse, cursor)

end ApiContract.Yaml.Block
