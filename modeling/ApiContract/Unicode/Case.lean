import ApiContract.Unicode.Table
import ApiContract.Unicode.Table.Case

/-
This file maps characters between cases. A mapping is held as runs of characters that move by one
distance.
-/

namespace ApiContract.Unicode

/-- Code points that are moved by one distance: the first one, the number of further ones, the step
between them and the distance. -/
structure CaseRun where
  first : Nat
  more : Nat
  step : Nat
  distance : Int
  deriving Repr

def CaseRun.last (run : CaseRun) : Nat := run.first + run.more * run.step

def CaseRun.contains (run : CaseRun) (code : Nat) : Bool :=
  run.first ≤ code && code ≤ run.last && (code - run.first) % run.step == 0

def CaseRun.image (run : CaseRun) (code : Nat) : Nat := ((code : Int) + run.distance).toNat

/-- The code points of a run with their images. -/
def CaseRun.pairs (run : CaseRun) : List (Nat × Nat) :=
  (List.range (run.more + 1)).map fun index =>
    let code := run.first + index * run.step
    (code, run.image code)

/-- The runs of a table, from a code point on. -/
def caseRunsFrom (start : Nat) : List Nat → List CaseRun
  | distance :: shape :: move :: rest =>
      let run : CaseRun := ⟨start + distance, shape / 2, shape % 2 + 1, signed move⟩
      run :: caseRunsFrom (run.last + 1) rest
  | _ => []

def caseRuns (table : String) : List CaseRun := caseRunsFrom 0 (tableNumbers table).toList

/-- The image of a code point under runs; a code point outside them is its own image. -/
def moved (runs : List CaseRun) (code : Nat) : Nat :=
  match runs.find? (·.contains code) with
  | some run => run.image code
  | none => code

/-- The upper-case mappings that give one character. -/
def upperRuns : List CaseRun := caseRuns upperTable

/-- Mappings to several characters: the distance, the length and the characters of each. The first
number bounds the count of the mappings. -/
def sequencesFrom : Nat → Nat → List Nat → List (Nat × List Nat)
  | fuel + 1, start, distance :: length :: rest =>
      let code := start + distance
      (code, rest.take length) :: sequencesFrom fuel (code + 1) (rest.drop length)
  | _, _, _ => []

/-- The upper-case mappings that give several characters. -/
def upperSequences : List (Nat × List Nat) :=
  let numbers := (tableNumbers upperSequenceTable).toList
  sequencesFrom numbers.length 0 numbers

def upperCharacters (character : Char) : List Char :=
  let code := character.toNat
  if code < 128 then [character.toUpper]
  else
    match upperSequences.lookup code with
    | some codes => codes.map Char.ofNat
    | none => [Char.ofNat (moved upperRuns code)]

/-- A text in upper case. -/
def upper (text : String) : String := String.ofList (text.toList.flatMap upperCharacters)

/-- The simple case foldings: each code point with the one that stands for its class. -/
def foldPairs : List (Nat × Nat) := (caseRuns foldTable).flatMap CaseRun.pairs

/-- A set with all characters that differ only in case from one of its own: first those that stand
for a class are added, and then the classes. -/
def withOtherCases (set : CodeSet) : CodeSet :=
  let images := foldPairs.filter fun pair => set.contains pair.1
  let folded := set.union (CodeSet.ofRanges (images.map fun pair => (pair.2, pair.2)))
  let sources := foldPairs.filter fun pair => folded.contains pair.2
  folded.union (CodeSet.ofRanges (sources.map fun pair => (pair.1, pair.1)))

end ApiContract.Unicode
