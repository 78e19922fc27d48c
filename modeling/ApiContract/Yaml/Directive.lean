import ApiContract.Yaml.Tag
import ApiContract.Yaml.Token

/-
This file reads directives and the names of anchors.
-/

namespace ApiContract.Yaml

namespace Directive

/-- Reads the name of a directive. -/
def readName (start : Mark) (cursor : Cursor) : Except Fault (String × Cursor) :=
  let name := cursor.rest.takeWhile isNameCharacter
  let next := cursor.skipMany name.length
  if name.isEmpty then next.failIn .directive start .missingDirectiveName
  else if next.isGapAhead 0 then .ok (String.ofList name, next)
  else next.failIn .directive start .nonAlphabeticDirective

def greatestNumberLength : Nat := 9

/-- Reads a number of a version. -/
def readNumber (start : Mark) (cursor : Cursor) : Except Fault (Nat × Cursor) :=
  let digits := cursor.rest.takeWhile Char.isDigit
  if digits.isEmpty then cursor.failIn .versionDirective start .missingVersionNumber
  else if greatestNumberLength < digits.length then
    (cursor.skipMany greatestNumberLength).failIn .versionDirective start .longVersionNumber
  else
    .ok (digits.foldl (fun value digit => value * 10 + (digit.toNat - 48)) 0,
      cursor.skipMany digits.length)

def readVersion (start : Mark) (cursor : Cursor) : Except Fault (TokenKind × Cursor) := do
  let (major, cursor) ← readNumber start (cursor.skipWhile isBlank)
  if cursor.lookingAt '.' then
    let (minor, cursor) ← readNumber start cursor.skip
    return (.versionDirective major minor, cursor)
  else cursor.failIn .versionDirective start .missingVersionPoint

def readTag (start : Mark) (cursor : Cursor) : Except Fault (TokenKind × Cursor) := do
  let (handle, cursor) ← Tag.readHandle true start (cursor.skipWhile isBlank)
  if !cursor.test isBlank then cursor.failIn .tagDirective start .missingWhitespace
  else
    let (replacement, cursor) ← Tag.readUri true true [] start (cursor.skipWhile isBlank)
    if cursor.isGapAhead 0 then
      return (.tagDirective (String.ofList handle) replacement, cursor)
    else cursor.failIn .tagDirective start .missingWhitespaceOrBreak

/-- Reads a directive with the end of its line. -/
def read (cursor : Cursor) : Except Fault (TokenKind × Cursor) := do
  let start := cursor.mark
  let (name, cursor) ← readName start cursor.skip
  let (kind, cursor) ←
    match name with
    | "YAML" => readVersion start cursor
    | "TAG" => readTag start cursor
    | _ => cursor.failIn .directive start .unknownDirective
  return (kind, ← cursor.endLine .directive start)

end Directive

/-- Reads the name of an anchor or an alias after its mark. -/
def readAnchorName (activity : Activity) (cursor : Cursor) : Except Fault (String × Cursor) :=
  let start := cursor.mark
  let name := cursor.skip.rest.takeWhile isNameCharacter
  let next := cursor.skip.skipMany name.length
  let ends :=
    next.isGapAhead 0 || next.test fun character => "?:,]\x7d%@\x60".toList.contains character
  if name.isEmpty || !ends then next.failIn activity start .missingAnchorName
  else .ok (String.ofList name, next)

end ApiContract.Yaml
