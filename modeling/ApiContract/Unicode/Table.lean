import ApiContract.CodeSet
import ApiContract.Text.Base64

/-
This file reads tables that are written as texts. A letter holds six bits: five of a number, the
lowest first, and one that tells whether the number goes on. Ranges are written as the distance to
the end of the last one and the number of further code points.
-/

namespace ApiContract.Unicode

/-- The numbers read so far, and the value and the weight of the digits of the next one. -/
structure TableReader where
  numbers : Array Nat
  value : Nat
  weight : Nat

def TableReader.read (reader : TableReader) (letter : Char) : TableReader :=
  let bits := (Text.sixBits? letter).getD 0
  let value := reader.value + bits % 32 * reader.weight
  if bits < 32 then ⟨reader.numbers.push value, 0, 1⟩
  else ⟨reader.numbers, value, reader.weight * 32⟩

/-- The numbers of a table. -/
def tableNumbers (table : String) : Array Nat :=
  (table.foldl TableReader.read ⟨#[], 0, 1⟩).numbers

/-- The number that an even or odd number stands for: the half, or the negated half. -/
def signed (number : Nat) : Int :=
  if number % 2 = 0 then (number / 2 : Nat) else -((number + 1) / 2 : Nat)

/-- The ranges of a list of distances and lengths, from a code point on. -/
def rangesFrom (start : Nat) : List Nat → List (Nat × Nat)
  | distance :: length :: rest =>
      let first := start + distance
      (first, first + length) :: rangesFrom (first + length + 1) rest
  | _ => []

/-- The set of a table of ranges. -/
def tableSet (table : String) : CodeSet := ⟨(rangesFrom 0 (tableNumbers table).toList).toArray⟩

/-- The values of ranges: the distance, the length and the value of each. -/
def valuesFrom (start : Nat) : List Nat → List (Nat × Nat × Nat)
  | distance :: length :: value :: rest =>
      let first := start + distance
      (first, first + length, value) :: valuesFrom (first + length + 1) rest
  | _ => []

/-- A partial map from code points to numbers, by ranges. -/
structure CodeMap where
  ranges : Array (Nat × Nat)
  values : Array Nat
  deriving Inhabited

def CodeMap.get? (map : CodeMap) (code : Nat) : Option Nat :=
  match CodeSet.search map.ranges code (map.ranges.size + 1) 0 map.ranges.size with
  | 0 => none
  | count + 1 => if map.ranges[count]?.any (code ≤ ·.2) then map.values[count]? else none

/-- The map of a table of ranges with values. -/
def tableMap (table : String) : CodeMap :=
  let entries := valuesFrom 0 (tableNumbers table).toList
  ⟨(entries.map fun entry => (entry.1, entry.2.1)).toArray,
    (entries.map fun entry => entry.2.2).toArray⟩

/-- The code points with one of some values. -/
def CodeMap.preimage (map : CodeMap) (accepts : Nat → Bool) : CodeSet :=
  CodeSet.ofRanges
    (((map.ranges.zip map.values).filter fun entry => accepts entry.2).map (·.1)).toList

end ApiContract.Unicode
