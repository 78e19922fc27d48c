import ApiContract.Proofs.Summary.Report

/-
This file proves that of the skips of a summary the first of each label is kept, and what is kept of the
skips of two summaries that are merged.
-/

namespace ApiContract

namespace Summary

/-- Whether a list keeps of some entries the first of each label, in the order in which the labels come
first. -/
structure KeepsFirsts (kept entries : List SummaryEntry) : Prop where
  sublist : kept.Sublist entries
  labels : IsDistinct (kept.map SummaryEntry.label) (entries.map SummaryEntry.label)
  first : ∀ entry ∈ kept, ∃ before after, entries = before ++ entry :: after ∧
    entry.label ∉ before.map SummaryEntry.label

/-- The labels say which entries are kept. -/
theorem KeepsFirsts.eq_filterMap {kept entries : List SummaryEntry} (keeps : KeepsFirsts kept entries) :
    kept = (kept.map SummaryEntry.label).filterMap fun label =>
      entries.find? fun entry => entry.label = label := by
  have found (entry : SummaryEntry) (member : entry ∈ kept) :
      (entries.find? fun other => other.label = entry.label) = some entry := by
    obtain ⟨before, after, parts, new⟩ := keeps.first entry member
    rw [List.find?_eq_some_iff_append]
    refine ⟨by simp, before, after, parts, fun other earlier => ?_⟩
    have different : other.label ≠ entry.label := fun same =>
      new (List.mem_map.mpr ⟨other, earlier, same⟩)
    simpa using different
  calc
    kept = kept.filterMap some := List.filterMap_some.symm
    _ = kept.filterMap fun entry => entries.find? fun other => other.label = entry.label :=
      List.filterMap_congr fun entry member => (found entry member).symm
    _ = _ := by rw [List.filterMap_map]; rfl

/-- Only one list keeps the first entry of each label. -/
theorem KeepsFirsts.unique {kept kept' entries : List SummaryEntry} (keeps : KeepsFirsts kept entries)
    (keeps' : KeepsFirsts kept' entries) : kept = kept' := by
  rw [keeps.eq_filterMap, keeps'.eq_filterMap, keeps.labels.unique keeps'.labels]

/-- The first entries of labels are some of the entries, in their order. -/
theorem firstOfLabels_sublist (seen : List String) (entries : List SummaryEntry) :
    (firstOfLabels seen entries).Sublist entries := by
  induction entries generalizing seen with
  | nil => exact .slnil
  | cons entry rest ih =>
      rw [firstOfLabels]
      split
      · exact (ih seen).cons entry
      · exact (ih (entry.label :: seen)).cons_cons entry

/-- An entry that is kept has a label that was neither seen nor stands before it. -/
theorem first_of_mem_firstOfLabels (seen : List String) {entries : List SummaryEntry}
    {entry : SummaryEntry} (member : entry ∈ firstOfLabels seen entries) :
    entry.label ∉ seen ∧ ∃ before after, entries = before ++ entry :: after ∧
      entry.label ∉ before.map SummaryEntry.label := by
  induction entries generalizing seen with
  | nil => cases member
  | cons first rest ih =>
      rw [firstOfLabels] at member
      split at member
      · next old =>
          obtain ⟨new, before, after, parts, apart⟩ := ih seen member
          refine ⟨new, first :: before, after, by rw [parts, List.cons_append], ?_⟩
          rw [List.map_cons, List.mem_cons, not_or]
          exact ⟨fun same => new (same ▸ old), apart⟩
      · next fresh =>
          rcases List.mem_cons.mp member with rfl | later
          · exact ⟨fresh, [], rest, rfl, List.not_mem_nil⟩
          · obtain ⟨new, before, after, parts, apart⟩ := ih (first.label :: seen) later
            rw [List.mem_cons, not_or] at new
            refine ⟨new.2, first :: before, after, by rw [parts, List.cons_append], ?_⟩
            rw [List.map_cons, List.mem_cons, not_or]
            exact ⟨new.1, apart⟩

/-- The skips that are listed are the first ones of their labels. -/
theorem keepsFirsts_uniqueSkips (summary : Summary) :
    KeepsFirsts summary.uniqueSkips summary.skips where
  sublist := firstOfLabels_sublist [] summary.skips
  labels := isDistinct_uniqueSkips summary
  first := fun _ member => (first_of_mem_firstOfLabels [] member).2

/-- More labels that were seen strike out the entries that have them. -/
theorem firstOfLabels_of_subset {seen more : List String} (subset : seen ⊆ more)
    (entries : List SummaryEntry) :
    firstOfLabels more entries =
      (firstOfLabels seen entries).filter fun entry => entry.label ∉ more := by
  induction entries generalizing seen more with
  | nil => rfl
  | cons entry rest ih =>
      rw [firstOfLabels, firstOfLabels]
      by_cases old : entry.label ∈ seen
      · rw [if_pos old, if_pos (subset old), ih subset]
      · rw [if_neg old]
        by_cases known : entry.label ∈ more
        · rw [if_pos known, List.filter_cons_of_neg (by simpa using known)]
          exact ih (List.cons_subset.mpr ⟨known, subset⟩)
        · rw [if_neg known, List.filter_cons_of_pos (by simpa using known),
            ih (List.cons_subset_cons entry.label subset)]
          -- What is kept of the rest lacks the label of the entry, which is seen by then.
          congr 1
          refine List.filter_congr fun other member => ?_
          have new := (first_of_mem_firstOfLabels _ member).1
          simp only [List.mem_cons, not_or] at new ⊢
          simp only [new.1, not_false_eq_true, true_and]

/-- Labels that were seen before leave out their own entries only. -/
theorem firstOfLabels_eq_filter (seen : List String) (entries : List SummaryEntry) :
    firstOfLabels seen entries =
      (firstOfLabels [] entries).filter fun entry => entry.label ∉ seen :=
  firstOfLabels_of_subset (List.nil_subset seen) entries

/-- Only which labels were seen counts. -/
theorem firstOfLabels_congr {seen seen' : List String} (same : ∀ label, label ∈ seen ↔ label ∈ seen')
    (entries : List SummaryEntry) : firstOfLabels seen entries = firstOfLabels seen' entries := by
  simp only [firstOfLabels_eq_filter seen, firstOfLabels_eq_filter seen', same]

/-- Of the entries of a second list, those are kept whose label the first list has not. -/
theorem firstOfLabels_append (seen : List String) (first second : List SummaryEntry) :
    firstOfLabels seen (first ++ second) =
      firstOfLabels seen first ++
        firstOfLabels (first.map SummaryEntry.label ++ seen) second := by
  induction first generalizing seen with
  | nil => rfl
  | cons entry rest ih =>
      rw [List.cons_append, firstOfLabels, firstOfLabels, List.map_cons]
      split
      · next old =>
          rw [ih]
          congr 1
          apply firstOfLabels_congr
          intro label
          simp only [List.cons_append, List.mem_cons, List.mem_append]
          exact ⟨.inr, fun known => known.elim (fun same => .inr (same ▸ old)) id⟩
      · next new =>
          rw [ih, List.cons_append]
          congr 2
          apply firstOfLabels_congr
          intro label
          simp only [List.cons_append, List.mem_cons, List.mem_append]
          exact or_left_comm

/-- Of the skips of a summary exactly the first of each label is kept, in order; merging adds the
labels that were not skipped before. -/
theorem uniqueSkips_keeps_firsts (summary : Summary) :
    (∀ kept, KeepsFirsts kept summary.skips ↔ kept = summary.uniqueSkips) ∧
      ∀ other : Summary, (summary.merge other).uniqueSkips =
        summary.uniqueSkips ++ other.uniqueSkips.filter fun entry =>
          entry.label ∉ summary.skips.map SummaryEntry.label := by
  constructor
  · intro kept
    constructor
    · exact fun keeps => keeps.unique (keepsFirsts_uniqueSkips summary)
    · rintro rfl
      exact keepsFirsts_uniqueSkips summary
  · intro other
    rw [uniqueSkips, merge, firstOfLabels_append, List.append_nil,
      firstOfLabels_eq_filter (summary.skips.map SummaryEntry.label)]
    rfl

end Summary

end ApiContract
