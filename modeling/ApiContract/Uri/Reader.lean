import ApiContract.Text.Basic
import ApiContract.Uri.Literal

/-
This file reads references to resources. The wide form allows characters beyond ASCII. A fault
carries the byte at which the reading stops.
-/

namespace ApiContract.Uri

inductive Fault where
  | unexpectedCharacter (index : Nat)
  | invalidOctet (index : Nat)
  | invalidAddress (index : Nat)
  deriving DecidableEq, Repr

def Fault.message : Fault → String
  | unexpectedCharacter index => "unexpected character at index " ++ toString index
  | invalidOctet index => "invalid percent-encoded octet at index " ++ toString index
  | invalidAddress index => "invalid IPv6 address at index " ++ toString index

/-- The rest of a text, and the number of bytes before it. -/
structure Cursor where
  index : Nat
  rest : List Char

namespace Cursor

/-- The cursor after some characters of the rest. -/
def after (cursor : Cursor) (taken : List Char) : Cursor :=
  ⟨cursor.index + Text.byteLength taken, cursor.rest.drop taken.length⟩

def fail {α : Type} (cursor : Cursor) : Except Fault α := .error (.unexpectedCharacter cursor.index)

end Cursor

/-- The characters of a part at the start of a text. An escape is a percent sign before two
hexadecimal digits. -/
def partStart (wide : Bool) (part : Part) : Nat → List Char → Except Fault (List Char)
  | index, '%' :: first :: second :: rest =>
      if Format.isHexDigit first ∧ Format.isHexDigit second then
        ('%' :: first :: second :: ·) <$> partStart wide part (index + 3) rest
      else .error (.invalidOctet index)
  | index, '%' :: _ => .error (.invalidOctet index)
  | index, character :: rest =>
      if part.allows wide character then
        (character :: ·) <$> partStart wide part (index + character.utf8Size) rest
      else .ok []
  | _, [] => .ok []

def readPart (wide : Bool) (part : Part) (cursor : Cursor) :
    Except Fault (List Char × Cursor) := do
  let taken ← partStart wide part cursor.index cursor.rest
  return (taken, cursor.after taken)

/-- Reads a part behind its mark, if the mark is there. -/
def readMarked (wide : Bool) (mark : Char) (part : Part) (cursor : Cursor) :
    Except Fault (Option (List Char) × Cursor) :=
  if cursor.rest.head? = some mark then do
    let (taken, cursor) ← readPart wide part (cursor.after [mark])
    return (some taken, cursor)
  else .ok (none, cursor)

/-- Reads an address in brackets. -/
def readLiteral (cursor : Cursor) : Except Fault (List Char × Cursor) :=
  let start := cursor.after ['[']
  let stoppingAt := fun rest : List Char =>
    start.after (start.rest.take (start.rest.length - rest.length))
  let close := fun stop : Cursor =>
    if stop.rest.head? = some ']' then
      let next := stop.after [']']
      .ok (cursor.rest.take (cursor.rest.length - next.rest.length), next)
    else stop.fail
  if (Literal.readPiece? start.rest).isSome then
    match Literal.readVersion6? start.rest with
    | some rest => close (stoppingAt rest)
    | none => .error (.invalidAddress start.index)
  else
    let (isWhole, rest) := Literal.readLater start.rest
    if isWhole then close (stoppingAt rest) else (stoppingAt rest).fail

/-- Reads a port, if there is one. -/
def readPort (cursor : Cursor) : Option (List Char) × Cursor :=
  match cursor.rest with
  | ':' :: rest =>
      let digits := rest.takeWhile Char.isDigit
      (some digits, cursor.after (':' :: digits))
  | _ => (none, cursor)

/-- The host and the port in a text without a user. There is one colon at most, and only digits
follow it. -/
def splitPort (index : Nat) (text : List Char) :
    Except Fault (List Char × Option (List Char)) :=
  let host := text.takeWhile (· != ':')
  match text.drop host.length with
  | [] => .ok (text, none)
  | _ :: port =>
      if port.contains ':' then
        let afterLast := (text.reverse.takeWhile (· != ':')).reverse
        .error (.unexpectedCharacter (index + Text.byteLength text - Text.byteLength afterLast - 1))
      else
        let digits := port.takeWhile Char.isDigit
        if digits.length = port.length then .ok (host, some port)
        else .error (.unexpectedCharacter (index + Text.byteLength host + 1 + digits.length))

/-- Reads an authority after its two slashes. -/
def readAuthority (wide : Bool) (cursor : Cursor) : Except Fault (Authority × Cursor) := do
  let (taken, next) ← readPart wide .user cursor
  if next.rest.head? = some '@' then
    let start := next.after ['@']
    let (host, rest) ←
      if start.rest.head? = some '[' then readLiteral start else readPart wide .name start
    let (port, rest) := readPort rest
    return (⟨some taken, host, port⟩, rest)
  else if !taken.isEmpty then
    let (host, port) ← splitPort cursor.index taken
    return (⟨none, host, port⟩, next)
  else if next.rest.head? = some '[' then
    let (host, rest) ← readLiteral next
    let (port, rest) := readPort rest
    return (⟨none, host, port⟩, rest)
  else return (⟨none, [], none⟩, next)

/-- Reads a query and a fragment up to the end of the text. -/
def readTail (wide : Bool) (start : Uri) (cursor : Cursor) : Except Fault Uri := do
  let (query, cursor) ← readMarked wide '?' .query cursor
  let (fragment, cursor) ← readMarked wide '#' .fragment cursor
  if cursor.rest.isEmpty then return { start with query := query, fragment := fragment }
  else cursor.fail

/-- Reads what follows two slashes. A path after an authority starts with a slash. -/
def readNetwork (wide : Bool) (scheme : Option (List Char)) (cursor : Cursor) :
    Except Fault Uri := do
  let (authority, start) ← readAuthority wide cursor
  let (path, next) ← readPart wide .path start
  if path.head?.any (· != '/') then start.fail
  else readTail wide ⟨scheme, some authority, path, none, none⟩ next

/-- Reads a reference. Without a scheme, no colon stands in the first segment of the path. -/
def read (wide : Bool) (text : String) : Except Fault Uri := do
  let start : Cursor := ⟨0, text.toList⟩
  let taken := start.rest.takeWhile isSchemeCharacter
  let next := start.after taken
  if next.rest.head? = some ':' then
    if !taken.head?.any Char.isAlpha then start.fail
    else
      let next := next.after [':']
      if ['/', '/'].isPrefixOf next.rest then
        readNetwork wide (some taken) (next.after ['/', '/'])
      else
        let (path, next) ← readPart wide .path next
        readTail wide ⟨some taken, none, path, none, none⟩ next
  else if ['/', '/'].isPrefixOf start.rest then readNetwork wide none (start.after ['/', '/'])
  else
    let (segment, next) ← readPart wide .firstSegment next
    if next.rest.head? = some ':' then next.fail
    else
      let (path, next) ← readPart wide .path next
      readTail wide ⟨none, none, taken ++ segment ++ path, none, none⟩ next

def isReference (wide : Bool) (text : String) : Bool :=
  match read wide text with
  | .ok _ => true
  | .error _ => false

/-- Whether a text is an identifier, which is a reference with a scheme. -/
def isIdentifier (wide : Bool) (text : String) : Bool :=
  match read wide text with
  | .ok reference => reference.scheme.isSome
  | .error _ => false

end ApiContract.Uri
