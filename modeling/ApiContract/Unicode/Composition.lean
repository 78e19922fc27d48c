import ApiContract.Unicode.Table
import ApiContract.Unicode.Table.Composition

/-
This file takes characters apart and puts them together again, so that texts that are written with
the same marks become equal.
-/

namespace ApiContract.Unicode

/-- A character that stands for two others in a row. -/
structure Composition where
  whole : Char
  first : Char
  second : Char

def compositionsFrom (start : Nat) : List Nat → List Composition
  | distance :: first :: second :: rest =>
      let code := start + distance
      ⟨Char.ofNat code, Char.ofNat first, Char.ofNat second⟩ :: compositionsFrom (code + 1) rest
  | _ => []

def compositions : List Composition := compositionsFrom 0 (tableNumbers compositionTable).toList

def combiningClassMap : CodeMap := tableMap combiningClassTable

/-- The class of a mark. Marks of different classes may change places; a character of the class zero
stays where it is. -/
def combiningClass (character : Char) : Nat :=
  (combiningClassMap.get? character.toNat).getD 0

/-- The parts of a syllable: one without a tail has two letters, one with a tail is a syllable
without a tail and the tail. -/
def syllableParts? (character : Char) : Option (Char × Char) :=
  let code := character.toNat
  if 0xAC00 ≤ code ∧ code < 0xAC00 + 11172 then
    let index := code - 0xAC00
    if index % 28 = 0 then
      some (Char.ofNat (0x1100 + index / 588), Char.ofNat (0x1161 + index % 588 / 28))
    else some (Char.ofNat (code - index % 28), Char.ofNat (0x11A7 + index % 28))
  else none

/-- The syllable of two parts. -/
def syllable? (first second : Char) : Option Char :=
  let (start, next) := (first.toNat, second.toNat)
  if 0x1100 ≤ start ∧ start < 0x1100 + 19 ∧ 0x1161 ≤ next ∧ next < 0x1161 + 21 then
    some (Char.ofNat (0xAC00 + (start - 0x1100) * 588 + (next - 0x1161) * 28))
  else if 0xAC00 ≤ start ∧ start < 0xAC00 + 11172 ∧ (start - 0xAC00) % 28 = 0 ∧
      0x11A7 < next ∧ next < 0x11A7 + 28 then
    some (Char.ofNat (start + (next - 0x11A7)))
  else none

/-- The two characters that a character stands for. -/
def parts? (character : Char) : Option (Char × Char) :=
  if character.toNat < 128 then none
  else
    match compositions.find? (·.whole == character) with
    | some found => some (found.first, found.second)
    | none => syllableParts? character

/-- The character that stands for two others. -/
def whole? (first second : Char) : Option Char :=
  if second.toNat < 128 then none
  else
    match compositions.find? fun found => found.first == first && found.second == second with
    | some found => some found.whole
    | none => syllable? first second

/-- Takes a character apart. Only first parts have parts again; the number bounds the parts. -/
def takenApart : Nat → Char → List Char
  | 0, character => [character]
  | bound + 1, character =>
      match parts? character with
      | some (first, second) => takenApart bound first ++ [second]
      | none => [character]

/-- Puts a character before others, behind the marks of lower classes if it is a mark. -/
def insertMark (character : Char) : List Char → List Char
  | [] => [character]
  | other :: rest =>
      if combiningClass other ≠ 0 ∧ combiningClass other < combiningClass character then
        other :: insertMark character rest
      else character :: other :: rest

/-- A text with all characters taken apart and the marks in the order of their classes. No character
has more than four parts. -/
def decomposed (text : List Char) : List Char :=
  (text.flatMap (takenApart 4)).foldr insertMark []

/-- What is put together so far: the finished text from its end, the last character that may take
up others, and the marks behind it from the last one. -/
structure Composer where
  finished : List Char
  starter : Option Char
  marks : List Char

def Composer.close (composer : Composer) : List Char :=
  composer.marks ++ composer.starter.toList ++ composer.finished

/-- A character joins the starter unless a mark of the same or a higher class stands between. -/
def Composer.add (composer : Composer) (character : Char) : Composer :=
  let free : Bool :=
    match composer.marks with
    | [] => true
    | last :: _ => combiningClass last < combiningClass character
  match (if free then composer.starter.bind (whole? · character) else none) with
  | some whole => { composer with starter := some whole }
  | none =>
      if combiningClass character = 0 then ⟨composer.close, some character, []⟩
      else { composer with marks := character :: composer.marks }

/-- The composed form of a text. -/
def composed (text : List Char) : List Char :=
  ((decomposed text).foldl Composer.add ⟨[], none, []⟩).close.reverse

end ApiContract.Unicode
