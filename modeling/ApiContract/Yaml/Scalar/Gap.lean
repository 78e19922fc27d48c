import ApiContract.Yaml.Cursor

/-
This file reads the blanks and breaks between the words of a flowing text. A single break becomes a
space, and the breaks after the first one are kept.
-/

namespace ApiContract.Yaml

/-- The blanks and breaks between two words. -/
structure Gap where
  blanks : List Char
  firstBreak : List Char
  furtherBreaks : List Char
  broken : Bool
  deriving Repr

namespace Gap

def none : Gap := ⟨[], [], [], false⟩

/-- A gap after an escaped break, which leaves nothing in the text. -/
def escapedBreak : Gap := ⟨[], [], [], true⟩

/-- What a gap leaves in the text. -/
def text (gap : Gap) : List Char :=
  if gap.broken then
    if gap.firstBreak.head? = some '\n' then
      if gap.furtherBreaks.isEmpty then [' '] else gap.furtherBreaks
    else gap.firstBreak ++ gap.furtherBreaks
  else gap.blanks

def addBlank (gap : Gap) (character : Char) : Gap :=
  if gap.broken then gap else { gap with blanks := gap.blanks ++ [character] }

def addBreak (gap : Gap) (text : List Char) : Gap :=
  if gap.broken then { gap with furtherBreaks := gap.furtherBreaks ++ text }
  else ⟨[], text, gap.furtherBreaks, true⟩

/-- Reads blanks and breaks. After a break, a tab left of the indentation is a fault. The number
bounds the characters. -/
def read (indentation : Option (Int × Mark)) : Nat → Gap → Cursor → Except Fault (Gap × Cursor)
  | 0, gap, cursor => .ok (gap, cursor)
  | fuel + 1, gap, cursor =>
      match cursor.rest with
      | [] => .ok (gap, cursor)
      | character :: _ =>
          if isBlank character then
            match indentation with
            | some (indent, start) =>
                if gap.broken ∧ (cursor.mark.column : Int) < indent ∧ character = '\t' then
                  cursor.failIn .plainScalar start .tabInPlain
                else read indentation fuel (gap.addBlank character) cursor.skip
            | Option.none => read indentation fuel (gap.addBlank character) cursor.skip
          else if isBreak character then
            read indentation fuel (gap.addBreak cursor.breakText) cursor.skipLine
          else .ok (gap, cursor)

end Gap

end ApiContract.Yaml
