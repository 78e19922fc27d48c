import ApiContract.Text.Utf8
import ApiContract.Yaml.Cursor

/-
This file reads tags, their handles and their escaped parts.
-/

namespace ApiContract.Yaml.Tag

/-- The characters of a tag; those of flow collections are allowed between angle brackets only. -/
def isUriCharacter (verbatim : Bool) (character : Char) : Bool :=
  isNameCharacter character || ";/?:@&=+$.%!~*'()".toList.contains character ||
    (verbatim && ",[]".toList.contains character)

/-- The activity of reading a tag, in a directive or at a node. -/
def uriActivity (directive : Bool) : Activity := if directive then .tagDirective else .tagUri

/-- The number of bytes of a character, by its first one. -/
def octetWidth (octet : Nat) : Nat :=
  if octet < 0x80 then 1
  else if 0xC0 ≤ octet ∧ octet < 0xE0 then 2
  else if 0xE0 ≤ octet ∧ octet < 0xF0 then 3
  else if 0xF0 ≤ octet ∧ octet < 0xF8 then 4
  else 0

/-- Reads one escaped byte. -/
def readOctet (directive : Bool) (start : Mark) (cursor : Cursor) : Except Fault (Nat × Cursor) :=
  match cursor.rest with
  | '%' :: first :: second :: _ =>
      match Text.hexValue? first, Text.hexValue? second with
      | some first, some second => .ok (first * 16 + second, cursor.skipMany 3)
      | _, _ => cursor.failIn (uriActivity directive) start .missingUriOctet
  | _ => cursor.failIn (uriActivity directive) start .missingUriOctet

/-- Reads further bytes of a character. -/
def readTrailing (directive : Bool) (start : Mark) :
    Nat → Cursor → Except Fault (List Nat × Cursor)
  | 0, cursor => .ok ([], cursor)
  | count + 1, cursor => do
      let (octet, next) ← readOctet directive start cursor
      if octet < 0x80 ∨ 0xC0 ≤ octet then
        cursor.failIn (uriActivity directive) start .wrongTrailingOctet
      else
        let (octets, next) ← readTrailing directive start count next
        return (octet :: octets, next)

/-- Reads the bytes of one escaped character. -/
def readEscape (directive : Bool) (start : Mark) (cursor : Cursor) :
    Except Fault (List Nat × Cursor) := do
  let (first, next) ← readOctet directive start cursor
  match octetWidth first with
  | 0 => cursor.failIn (uriActivity directive) start .wrongLeadingOctet
  | width + 1 =>
      let (octets, next) ← readTrailing directive start width next
      return (first :: octets, next)

/-- Bytes as characters; bytes that are no text stand for a replacement. -/
def decoded (octets : List Nat) : List Char :=
  match Text.decodeUtf8 octets with
  | .ok text => text.toList
  | .error _ => ['\ufffd']

/-- Reads the characters of a tag. The number bounds the steps. -/
def readUriCharacters (verbatim directive : Bool) (start : Mark) :
    Nat → Cursor → Except Fault (List Char × Cursor)
  | 0, cursor => .ok ([], cursor)
  | fuel + 1, cursor =>
      match cursor.rest with
      | [] => .ok ([], cursor)
      | character :: _ =>
          if !isUriCharacter verbatim character then .ok ([], cursor)
          else if character = '%' then do
            let (octets, cursor) ← readEscape directive start cursor
            let (rest, cursor) ← readUriCharacters verbatim directive start fuel cursor
            return (decoded octets ++ rest, cursor)
          else do
            let (rest, cursor) ← readUriCharacters verbatim directive start fuel cursor.skip
            return (character :: rest, cursor)

/-- Reads a tag after a head of which the first character does not belong to it. A zero character
ends the tag, but not the reading. -/
def readUri (verbatim directive : Bool) (head : List Char) (start : Mark) (cursor : Cursor) :
    Except Fault (String × Cursor) := do
  let (characters, next) ←
    readUriCharacters verbatim directive start (cursor.rest.length + 1) cursor
  if head.isEmpty ∧ next.mark.index = cursor.mark.index then
    cursor.failIn (uriActivity directive) start .missingTagUri
  else return (String.ofList ((head.drop 1 ++ characters).takeWhile (· != '\x00')), next)

/-- Reads a handle: an exclamation mark, a name, and one more mark. At a node the last one may be
missing, and the handle is then the start of a tag. -/
def readHandle (directive : Bool) (start : Mark) (cursor : Cursor) :
    Except Fault (List Char × Cursor) :=
  if !cursor.lookingAt '!' then
    cursor.failIn (if directive then .tagDirectiveHandle else .tag) start .missingTagMark
  else
    let name := cursor.skip.rest.takeWhile isNameCharacter
    let next := cursor.skip.skipMany name.length
    if next.lookingAt '!' then .ok ('!' :: name ++ ['!'], next.skip)
    else if directive ∧ !name.isEmpty then next.failIn .tagDirectiveEnd start .missingTagMark
    else .ok ('!' :: name, next)

/-- Whether a handle has both of its marks. -/
def isNamedHandle (handle : List Char) : Bool :=
  1 < handle.length && handle.head? == some '!' && handle.getLast? == some '!'

/-- Reads the handle and the rest of a tag. -/
def readParts (start : Mark) (cursor : Cursor) : Except Fault (String × String × Cursor) := do
  if cursor.rest[1]? = some '<' then
    let (suffix, cursor) ← readUri true false [] start (cursor.skipMany 2)
    if cursor.lookingAt '>' then return ("", suffix, cursor.skip)
    else cursor.failIn .tag start .missingTagEnd
  else
    let (handle, cursor) ← readHandle false start cursor
    if isNamedHandle handle then
      let (suffix, cursor) ← readUri false false [] start cursor
      return (String.ofList handle, suffix, cursor)
    else
      let (suffix, cursor) ← readUri false false handle start cursor
      if suffix.isEmpty then return ("", "!", cursor) else return ("!", suffix, cursor)

/-- Reads a tag, which has to end before a gap, or in a flow collection before a comma. -/
def read (flow : Bool) (cursor : Cursor) : Except Fault (String × String × Cursor) := do
  let start := cursor.mark
  let (handle, suffix, cursor) ← readParts start cursor
  if (flow ∧ cursor.lookingAt ',') ∨ cursor.isGapAhead 0 then return (handle, suffix, cursor)
  else cursor.failIn .tag start .missingWhitespaceOrBreak

end ApiContract.Yaml.Tag
