import ApiContract.Proofs.Summary.Recording

/-
This file proves that partial summaries may be merged: outcomes that are recorded in chunks come to what
they come to in one summary, however the chunks are cut and the merges are bracketed.
-/

namespace ApiContract

namespace Summary

/-- A way to come to a summary: some outcomes are recorded in a summary of their own, or two summaries
that were come to are merged. -/
inductive Assembly where
  | chunk (outcomes : List (String × Outcome))
  | merged (first second : Assembly)

namespace Assembly

/-- The outcomes of all chunks, in their order. -/
def outcomes : Assembly → List (String × Outcome)
  | chunk outcomes => outcomes
  | merged first second => first.outcomes ++ second.outcomes

def summary : Assembly → Summary
  | chunk outcomes => empty.recordAll outcomes
  | merged first second => first.summary.merge second.summary

/-- However outcomes are recorded and merged, their summary is their tally. -/
theorem summary_eq_tally (assembly : Assembly) : assembly.summary = tally assembly.outcomes := by
  induction assembly with
  | chunk outcomes => exact recordAll_empty outcomes
  | merged first second ih ih' => rw [summary, outcomes, ih, ih', tally_append]

/-- Whatever the chunks and the bracketing of the merges, a summary is the one that records all
outcomes one after the other. -/
theorem summary_eq_recordAll (assembly : Assembly) :
    assembly.summary = empty.recordAll assembly.outcomes ∧
      assembly.summary.passed = assembly.outcomes.countP (fun entry => entry.2 = .passed) ∧
      assembly.summary.failures =
        assembly.outcomes.filterMap (fun entry => failureOf? entry.1 entry.2) ∧
      assembly.summary.skips = assembly.outcomes.filterMap (fun entry => skipOf? entry.1 entry.2) ∧
      assembly.summary.total = assembly.outcomes.length ∧
      (assembly.summary.isClean = true ↔ ∀ entry ∈ assembly.outcomes, entry.2.isFailed = false) ∧
      ∀ summary : Summary, empty.merge summary = summary ∧ summary.merge empty = summary := by
  have whole := assembly.summary_eq_tally
  rw [whole]
  refine ⟨(recordAll_empty _).symm, rfl, rfl, rfl, total_tally _, isClean_tally_iff _, ?_⟩
  exact fun summary => ⟨empty_merge summary, merge_empty summary⟩

/-- A label that is skipped in two chunks is listed once, with its first message. -/
example :
    (merged (.chunk [("a", .skipped "first"), ("b", .passed)])
      (.chunk [("a", .skipped "second"), ("c", .skipped "third")])).summary.uniqueSkips =
        [⟨"a", "first"⟩, ⟨"c", "third"⟩] := by
  decide

end Assembly

end Summary

end ApiContract
