import ApiContract.Outcome

/-
This file tallies the outcomes of many calls and writes the report on them.
-/

namespace ApiContract

/-- The label and the message of a call that did not pass. -/
structure SummaryEntry where
  label : String
  message : String
  deriving DecidableEq, Repr

structure Summary where
  passed : Nat
  failures : List SummaryEntry
  skips : List SummaryEntry
  deriving DecidableEq, Repr

namespace Summary

def empty : Summary := ⟨0, [], []⟩

/-- The summary with one more outcome. -/
def record (summary : Summary) (label : String) : Outcome → Summary
  | .passed => { summary with passed := summary.passed + 1 }
  | .skipped message => { summary with skips := summary.skips ++ [⟨label, message⟩] }
  | .failed message _ => { summary with failures := summary.failures ++ [⟨label, message⟩] }

/-- The outcomes of one summary followed by those of another. -/
def merge (first second : Summary) : Summary :=
  ⟨first.passed + second.passed, first.failures ++ second.failures, first.skips ++ second.skips⟩

def failed (summary : Summary) : Nat := summary.failures.length

def skipped (summary : Summary) : Nat := summary.skips.length

def total (summary : Summary) : Nat := summary.passed + summary.failed + summary.skipped

def isClean (summary : Summary) : Bool := summary.failures.isEmpty

/-- The entries whose label was not seen before. -/
def firstOfLabels : List String → List SummaryEntry → List SummaryEntry
  | _, [] => []
  | seen, entry :: rest =>
      if entry.label ∈ seen then firstOfLabels seen rest
      else entry :: firstOfLabels (entry.label :: seen) rest

/-- The first entry of each label that was skipped. -/
def uniqueSkips (summary : Summary) : List SummaryEntry := firstOfLabels [] summary.skips

/-- The number of failures that a report lists. -/
def greatestListed : Nat := 20

/-- The lines of a text; a line may end with a carriage return before its line feed. -/
def textLines (text : String) : List String :=
  let parts := Text.splitAt '\n' text.toList
  let complete := parts.dropLast.map fun line =>
    if line.getLast? = some '\r' then line.dropLast else line
  let last := (parts.getLast?.getD [])
  (if last.isEmpty then complete else complete ++ [last]).map String.ofList

def countsLine (summary : Summary) : String :=
  "schema validation: " ++ toString summary.total ++ " checked, " ++ toString summary.passed ++
    " passed, " ++ toString summary.failed ++ " failed, " ++ toString summary.skipped ++ " skipped"

/-- A label with its place in a list that starts at one. -/
def numbered (index : Nat) (entry : SummaryEntry) : String :=
  "  " ++ toString (index + 1) ++ ". " ++ entry.label

def failureLines (index : Nat) (entry : SummaryEntry) : List String :=
  numbered index entry :: (textLines entry.message).map fun line => "     " ++ line

def failureSection (summary : Summary) : List String :=
  if summary.failures.isEmpty then []
  else
    ["", "failed:"] ++
      ((summary.failures.take greatestListed).mapIdx failureLines).flatten ++
      (if greatestListed < summary.failed then
        ["  ... and " ++ toString (summary.failed - greatestListed) ++ " more"]
      else [])

def skipSection (summary : Summary) : List String :=
  if summary.uniqueSkips.isEmpty then []
  else ["", "no schema defined:"] ++ summary.uniqueSkips.mapIdx numbered

/-- The report: the counts, the first failures with their messages, and the skipped labels. -/
def report (summary : Summary) : String :=
  String.join
    (([summary.countsLine] ++ summary.failureSection ++ summary.skipSection).map (· ++ "\n"))

end Summary

end ApiContract
