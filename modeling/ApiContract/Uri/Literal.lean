import ApiContract.Format.Address
import ApiContract.Uri

/-
This file reads the addresses that stand in brackets in place of a host name. Reading goes on as far
as it can, so that a fault lies where it stops.
-/

namespace ApiContract.Uri.Literal

/-- A piece of an address: a group of digits or the start of four octets, with or without a colon
before it, or a double colon, or a colon with nothing behind it. -/
inductive Piece where
  | group (colon : Bool)
  | octets (colon : Bool)
  | gap
  | colon

/-- Reads up to four hexadecimal digits, of which the first is given. A point among them belongs to
four octets, which are not read. -/
def readDigits (colon : Bool) (text : List Char) : Piece × List Char :=
  let digits := (text.take 4).takeWhile Format.isHexDigit
  let rest := text.drop digits.length
  if digits.length < 4 ∧ rest.head? = some '.' then (.octets colon, text)
  else (.group colon, rest)

/-- Reads one piece, if there is one. -/
def readPiece? (text : List Char) : Option (Piece × List Char) :=
  match text with
  | ':' :: ':' :: rest => some (.gap, rest)
  | ':' :: rest =>
      if rest.head?.any Format.isHexDigit then some (readDigits true rest) else some (.colon, rest)
  | _ => if text.head?.any Format.isHexDigit then some (readDigits false text) else none

/-- Reads an octet. A zero stands alone, and at most three digits are read. -/
def readOctet? (text : List Char) : Option (List Char) :=
  match text with
  | '0' :: rest => some rest
  | _ =>
      let digits := (text.take 3).takeWhile Char.isDigit
      let value := digits.foldl (fun (value : Nat) digit => value * 10 + (digit.toNat - 48)) 0
      if digits.isEmpty ∨ 255 < value then none else some (text.drop digits.length)

/-- Reads four octets with points between them. -/
def readOctets? (text : List Char) : Option (List Char) := do
  let rest ← readOctet? text
  let rest ← readOctet? (← Format.readMark '.' rest)
  let rest ← readOctet? (← Format.readMark '.' rest)
  readOctet? (← Format.readMark '.' rest)

/-- The number of groups of an address; a double colon stands for at least one of them. -/
def groupCount : Nat := 8

/-- Whether the groups that were read make an address. -/
def isComplete (count : Nat) (gap : Option Nat) : Bool := (count == groupCount) == gap.isNone

/-- Reads the pieces of an address of the sixth version, after some groups of which the double colon
may stand behind a few. The first number bounds the pieces: at most one of them is no group. -/
def readPieces? : Nat → Nat → Option Nat → List Char → Option (List Char)
  | 0, count, gap, text => if isComplete count gap then some text else none
  | bound + 1, count, gap, text =>
      if groupCount ≤ count then if isComplete count gap then some text else none
      else
        let isFirst := count == 0 || gap == some count
        match readPiece? text with
        | none => if isComplete count gap then some text else none
        | some (.group colon, rest) =>
            if colon = isFirst then none
            else readPieces? bound (count + 1) gap rest
        | some (.gap, rest) =>
            if gap.isSome then none else readPieces? bound count (some count) rest
        | some (.octets colon, rest) =>
            if groupCount < count + 2 ∨ colon = isFirst then none
            else
              match readOctets? rest with
              | none => none
              | some rest => if isComplete (count + 2) gap then some rest else none
        | some (.colon, _) => none

/-- Reads an address of the sixth version. -/
def readVersion6? (text : List Char) : Option (List Char) :=
  readPieces? (groupCount + 2) 0 none text

/-- Reads an address of a later version: its number and, after a point, its characters. The result
is where reading stops, and whether all parts are there. -/
def readLater (text : List Char) : Bool × List Char :=
  match text with
  | version :: rest =>
      if version ≠ 'v' ∧ version ≠ 'V' then (false, text)
      else
        let number := rest.takeWhile Format.isHexDigit
        let afterNumber := rest.drop number.length
        if number.isEmpty then (false, afterNumber)
        else
          match afterNumber with
          | '.' :: rest =>
              let address := rest.takeWhile fun character =>
                isUnreserved character || isDelimiter character || character == ':'
              (!address.isEmpty, rest.drop address.length)
          | _ => (false, afterNumber)
  | [] => (false, [])

end ApiContract.Uri.Literal
