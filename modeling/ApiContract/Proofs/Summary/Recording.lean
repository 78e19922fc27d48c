import ApiContract.Summary
import Mathlib.Tactic

/-
This file says what a summary holds after outcomes were recorded in it: the number of those that passed,
and an entry for each other one, in the order of the outcomes. Recording is merging, one outcome at a
time.
-/

namespace ApiContract

namespace Summary

/-- The entry of an outcome among the failures. -/
def failureOf? (label : String) : Outcome → Option SummaryEntry
  | .failed message _ => some ⟨label, message⟩
  | _ => none

/-- The entry of an outcome among the skips. -/
def skipOf? (label : String) : Outcome → Option SummaryEntry
  | .skipped message => some ⟨label, message⟩
  | _ => none

/-- The summary with some more outcomes. -/
def recordAll (summary : Summary) (outcomes : List (String × Outcome)) : Summary :=
  outcomes.foldl (fun summary (label, outcome) => summary.record label outcome) summary

/-- What labelled outcomes come to. -/
def tally (outcomes : List (String × Outcome)) : Summary :=
  ⟨outcomes.countP fun entry => entry.2 = .passed,
    outcomes.filterMap fun entry => failureOf? entry.1 entry.2,
    outcomes.filterMap fun entry => skipOf? entry.1 entry.2⟩

/-- Merging is associative. -/
theorem merge_assoc (first second third : Summary) :
    (first.merge second).merge third = first.merge (second.merge third) := by
  simp only [merge, Nat.add_assoc, List.append_assoc]

theorem merge_empty (summary : Summary) : summary.merge empty = summary := by
  simp only [merge, empty, Nat.add_zero, List.append_nil]

theorem empty_merge (summary : Summary) : empty.merge summary = summary := by
  simp only [merge, empty, Nat.zero_add, List.nil_append]

/-- Recording an outcome is merging what it comes to alone. -/
theorem record_eq_merge (summary : Summary) (label : String) (outcome : Outcome) :
    summary.record label outcome = summary.merge (tally [(label, outcome)]) := by
  cases outcome <;> simp [record, merge, tally, failureOf?, skipOf?]

/-- The tally of two lists is made of their tallies. -/
theorem tally_append (first second : List (String × Outcome)) :
    tally (first ++ second) = (tally first).merge (tally second) := by
  simp only [tally, merge, List.countP_append, List.filterMap_append]

/-- Recording outcomes is merging what they come to. -/
theorem recordAll_eq_merge (summary : Summary) (outcomes : List (String × Outcome)) :
    summary.recordAll outcomes = summary.merge (tally outcomes) := by
  induction outcomes generalizing summary with
  | nil => exact (merge_empty summary).symm
  | cons entry rest ih =>
      obtain ⟨label, outcome⟩ := entry
      have onward : summary.recordAll ((label, outcome) :: rest) =
          (summary.record label outcome).recordAll rest := rfl
      rw [onward, ih, record_eq_merge, merge_assoc, ← tally_append, List.singleton_append]

theorem recordAll_empty (outcomes : List (String × Outcome)) :
    empty.recordAll outcomes = tally outcomes := by
  rw [recordAll_eq_merge, empty_merge]

/-- Merging adds the totals. -/
theorem total_merge (first second : Summary) :
    (first.merge second).total = first.total + second.total := by
  simp only [total, merge, failed, skipped, List.length_append]
  omega

/-- Every outcome counts once. -/
theorem total_tally (outcomes : List (String × Outcome)) :
    (tally outcomes).total = outcomes.length := by
  induction outcomes with
  | nil => rfl
  | cons entry rest ih =>
      have alone : (tally [entry]).total = 1 := by
        obtain ⟨label, outcome⟩ := entry
        cases outcome <;> rfl
      rw [← List.singleton_append, tally_append, total_merge, alone, ih, List.length_append,
        List.length_singleton]

/-- An outcome makes a failure if it failed. -/
theorem isSome_failureOf? (label : String) (outcome : Outcome) :
    (failureOf? label outcome).isSome = outcome.isFailed := by
  cases outcome <;> rfl

/-- A tally is clean if no outcome failed. -/
theorem isClean_tally_iff (outcomes : List (String × Outcome)) :
    (tally outcomes).isClean = true ↔ ∀ entry ∈ outcomes, entry.2.isFailed = false := by
  rw [isClean, tally, List.isEmpty_iff, List.filterMap_eq_nil_iff]
  refine forall₂_congr fun entry _ => ?_
  rw [← isSome_failureOf? entry.1, Option.isSome_eq_false_iff, Option.isNone_iff_eq_none]

end Summary

end ApiContract
