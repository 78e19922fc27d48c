import ApiContract.Unicode.Table
import ApiContract.Unicode.Table.HostMapping

/-
This file maps the characters of international host names: letters lose their case, other forms of
characters give way to the usual ones, and some characters vanish. The remaining characters may not
stand in such a name.
-/

namespace ApiContract.Format.HostMapping

/-- Characters that give way to others: every character or every other one from a first one on. A
result of one character may move along with them. -/
structure Run where
  first : Nat
  last : Nat
  step : Nat
  moves : Bool
  result : List Nat

/-- The runs of a table, from a code point on. The first number bounds their count. -/
def runsFrom : Nat → Nat → List Nat → List Run
  | bound + 1, start, distance :: shape :: length :: rest =>
      let first := start + distance
      let step := if shape % 3 = 2 then 2 else 1
      let last := first + shape / 3 * step
      ⟨first, last, step, shape % 3 ≠ 0, rest.take length⟩ ::
        runsFrom bound (last + 1) (rest.drop length)
  | _, _, _ => []

def runs : Array Run :=
  let numbers := (Unicode.tableNumbers Unicode.mappedTable).toList
  (runsFrom numbers.length 0 numbers).toArray

def runRanges : Array (Nat × Nat) := runs.map fun run => (run.first, run.last)

/-- What a run puts in the place of a code point. -/
def Run.image? (run : Run) (code : Nat) : Option (List Nat) :=
  if code ≤ run.last ∧ (code - run.first) % run.step = 0 then
    some (if run.moves then run.result.map (· + (code - run.first)) else run.result)
  else none

/-- The run that may have a code point: the last one that does not start behind it. -/
def runOf? (code : Nat) : Option Run :=
  match CodeSet.search runRanges code (runRanges.size + 1) 0 runRanges.size with
  | 0 => none
  | count + 1 => runs[count]?

def validCharacters : CodeSet := Unicode.tableSet Unicode.validTable

def ignoredCharacters : CodeSet := Unicode.tableSet Unicode.ignoredTable

/-- Whether a character stays as it is. -/
def isValid (character : Char) : Bool := validCharacters.accepts character

/-- What comes in the place of a character, if it may stand in a name. -/
def image? (character : Char) : Option (List Char) :=
  if isValid character then some [character]
  else if ignoredCharacters.accepts character then some []
  else
    ((runOf? character.toNat).bind (·.image? character.toNat)).map (·.map Char.ofNat)

/-- A text with all characters mapped. -/
def map? (text : List Char) : Option (List Char) := (text.mapM image?).map List.flatten

end ApiContract.Format.HostMapping
