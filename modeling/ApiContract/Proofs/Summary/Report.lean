import Mathlib
import ApiContract.Proofs.Distinct
import ApiContract.Proofs.Summary.Lines
import ApiContract.Proofs.Text.Decimal

/-
This file proves that the report of a summary accounts for every outcome: the counts, the first failures
with their messages, how many more failed, and each skipped label once.
-/

namespace ApiContract

namespace Summary

def countsText (passed failed skipped : Nat) : String :=
  "schema validation: " ++ toString (passed + failed + skipped) ++ " checked, " ++ toString passed ++
    " passed, " ++ toString failed ++ " failed, " ++ toString skipped ++ " skipped"

def itemText (number : Nat) (label : String) : String :=
  "  " ++ toString number ++ ". " ++ label

def moreText (count : Nat) : String := "  ... and " ++ toString count ++ " more"

/-- Whether lines list failures, numbered from the given number on: for each its label, followed by the
lines of its message with an indent. -/
inductive ListsFailures : Nat → List SummaryEntry → List String → Prop where
  | nil (number : Nat) : ListsFailures number [] []
  | cons {number : Nat} {entry : SummaryEntry} {rest : List SummaryEntry}
      {messageLines lines : List String} (message : HasLines entry.message messageLines)
      (others : ListsFailures (number + 1) rest lines) :
      ListsFailures number (entry :: rest)
        (itemText number entry.label :: messageLines.map ("     " ++ ·) ++ lines)

/-- The lines of a report on failures: none without a failure, all up to twenty failures, and of more
than that the first twenty and how many more there are. -/
inductive IsFailureSection (failures : List SummaryEntry) : List String → Prop where
  | absent (none : failures = []) : IsFailureSection failures []
  | whole {lines : List String} (some : failures ≠ []) (few : failures.length ≤ 20)
      (listed : ListsFailures 1 failures lines) :
      IsFailureSection failures (["", "failed:"] ++ lines)
  | cut {lines : List String} (many : 20 < failures.length)
      (listed : ListsFailures 1 (failures.take 20) lines) :
      IsFailureSection failures (["", "failed:"] ++ lines ++ [moreText (failures.length - 20)])

/-- The lines of a report on skips: none without a skip, and else each skipped label once. -/
inductive IsSkipSection (skips : List SummaryEntry) : List String → Prop where
  | absent (none : skips = []) : IsSkipSection skips []
  | listed {labels : List String} (some : skips ≠ [])
      (distinct : IsDistinct labels (skips.map SummaryEntry.label)) :
      IsSkipSection skips
        (["", "no schema defined:"] ++ labels.mapIdx fun place label => itemText (place + 1) label)

/-- The lines of numbered failures list them. -/
theorem listsFailures_mapIdx (entries : List SummaryEntry) (start : Nat) :
    ListsFailures (start + 1) entries
      (entries.mapIdx fun place entry => failureLines (place + start) entry).flatten := by
  induction entries generalizing start with
  | nil => exact .nil _
  | cons entry rest ih =>
      rw [List.mapIdx_cons, List.flatten_cons, Nat.zero_add]
      simp only [Nat.add_assoc, Nat.add_comm 1 start]
      exact .cons (hasLines_textLines entry.message) (ih (start + 1))

/-- The section on failures is written as it should be. -/
theorem isFailureSection_failureSection (summary : Summary) :
    IsFailureSection summary.failures summary.failureSection := by
  have listed := listsFailures_mapIdx (summary.failures.take greatestListed) 0
  simp only [Nat.add_zero, greatestListed] at listed
  unfold failureSection greatestListed
  split
  · next none => exact .absent (List.isEmpty_iff.mp none)
  · next some =>
      split
      · next many => exact .cut many listed
      · next few =>
          rw [List.append_nil]
          have short : summary.failures.length ≤ 20 := Nat.le_of_not_lt few
          rw [List.take_of_length_le short] at listed ⊢
          exact .whole (mt List.isEmpty_iff.mpr some) short listed

/-- The labels of the entries that are kept are the distinct ones that were not seen before. -/
theorem map_label_firstOfLabels (seen : List String) (entries : List SummaryEntry) :
    (firstOfLabels seen entries).map SummaryEntry.label =
      ((entries.map SummaryEntry.label).filter (· ∉ seen)).eraseDups := by
  induction entries generalizing seen with
  | nil => rfl
  | cons entry rest ih =>
      rw [firstOfLabels, List.map_cons]
      split
      · next old => rw [ih, List.filter_cons_of_neg (by simpa using old)]
      · next new =>
          rw [List.map_cons, ih, List.filter_cons_of_pos (by simpa using new), List.eraseDups_cons,
            List.filter_filter]
          -- `seen` has grown by the label that is dropped from the rest on the other side.
          congr 2
          refine List.filter_congr fun label _ => ?_
          simp only [List.mem_cons, not_or, Bool.decide_and, decide_not, beq_eq_decide]

/-- The skips that are listed have each skipped label once. -/
theorem isDistinct_uniqueSkips (summary : Summary) :
    IsDistinct (summary.uniqueSkips.map SummaryEntry.label)
      (summary.skips.map SummaryEntry.label) := by
  have labels := map_label_firstOfLabels [] summary.skips
  simp only [List.not_mem_nil, not_false_eq_true, decide_true, List.filter_true] at labels
  rw [uniqueSkips, labels]
  exact isDistinct_eraseDups _

/-- The section on skips is written as it should be. -/
theorem isSkipSection_skipSection (summary : Summary) :
    IsSkipSection summary.skips summary.skipSection := by
  have distinct := isDistinct_uniqueSkips summary
  have empty_iff : summary.uniqueSkips = [] ↔ summary.skips = [] := by
    rw [← List.map_eq_nil_iff (f := SummaryEntry.label), distinct.eq_nil_iff, List.map_eq_nil_iff]
  unfold skipSection
  split
  · next none => exact .absent (empty_iff.mp (List.isEmpty_iff.mp none))
  · next some =>
      have lines : summary.uniqueSkips.mapIdx numbered =
          (summary.uniqueSkips.map SummaryEntry.label).mapIdx fun place label =>
            itemText (place + 1) label := by
        apply List.ext_getElem?
        intro place
        simp only [List.getElem?_mapIdx, List.getElem?_map, Option.map_map]
        rfl
      rw [lines]
      exact .listed (mt empty_iff.mpr (mt List.isEmpty_iff.mpr some)) distinct

/-- A report is its lines, each ended by a line feed. -/
theorem report_eq (summary : Summary) :
    summary.report =
      String.join ((countsText summary.passed summary.failures.length summary.skips.length ::
        (summary.failureSection ++ summary.skipSection)).map (· ++ "\n")) := rfl

/-- The last line on failures tells how many more there are. -/
theorem moreText_injective {count other : Nat} (same : moreText count = moreText other) :
    count = other := by
  apply Nat.repr_injective
  rw [← Nat.toString_eq_repr, ← Nat.toString_eq_repr]
  apply String.toList_inj.mp
  simpa [moreText] using congrArg String.toList same

/-- The third character of a long text is that of its start. -/
theorem third_append (start rest : String) (long : 2 < start.toList.length) :
    (start ++ rest).toList[2]? = start.toList[2]? := by
  rw [String.toList_append, List.getElem?_append_left long]

/-- The third character tells the last line on failures from all other lines. -/
theorem third_moreText (count : Nat) : (moreText count).toList[2]? = some '.' := by
  rw [moreText, String.append_assoc, third_append _ _ (by decide)]
  decide

/-- The third character of the first line is a letter. -/
theorem third_countsText (passed failed skipped : Nat) :
    (countsText passed failed skipped).toList[2]? = some 'h' := by
  unfold countsText
  simp only [String.append_assoc]
  rw [third_append _ _ (by decide)]
  decide

/-- A numbered label has a digit where the last line on failures has a dot. -/
theorem third_itemText (number : Nat) (label : String) :
    (itemText number label).toList[2]? ≠ some '.' := by
  obtain ⟨digit, digits, written⟩ :=
    List.exists_cons_of_ne_nil (l := (toString number).toList) (by simp)
  have isDigit := isDigit_of_mem_toString number digit (by rw [written]; exact .head _)
  have third : (itemText number label).toList[2]? = some digit := by
    simp only [itemText, String.append_assoc, String.toList_append, written]
    rfl
  rw [third]
  rintro same
  cases same
  cases isDigit

/-- No line on a failure has a dot as its third character. -/
theorem ListsFailures.third {number : Nat} {entries : List SummaryEntry} {lines : List String}
    (listed : ListsFailures number entries lines) :
    ∀ line ∈ lines, line.toList[2]? ≠ some '.' := by
  induction listed with
  | nil => exact nofun
  | @cons number entry rest messageLines lines message others ih =>
      intro line member
      rcases List.mem_append.mp member with own | later
      · rcases List.mem_cons.mp own with rfl | inside
        · exact third_itemText number entry.label
        · obtain ⟨messageLine, -, rfl⟩ := List.mem_map.mp inside
          rw [third_append _ _ (by decide)]
          decide
      · exact ih line later

/-- No line on skips has a dot as its third character. -/
theorem IsSkipSection.third {skips : List SummaryEntry} {lines : List String}
    (listed : IsSkipSection skips lines) : ∀ line ∈ lines, line.toList[2]? ≠ some '.' := by
  cases listed with
  | absent => exact nofun
  | @listed labels =>
      intro line member
      rcases List.mem_append.mp member with heading | inside
      · rcases List.mem_pair.mp heading with rfl | rfl <;> decide
      · obtain ⟨place, within, rfl⟩ := List.mem_mapIdx.mp inside
        exact third_itemText _ _

/-- How many more failures there are is said only of more than twenty. -/
theorem IsFailureSection.moreText_mem_iff {failures : List SummaryEntry} {lines : List String}
    (listed : IsFailureSection failures lines) (count : Nat) :
    moreText count ∈ lines ↔ 20 < failures.length ∧ count = failures.length - 20 := by
  -- No line of the section but the last has a dot as its third character.
  have heading : moreText count ∉ ["", "failed:"] := by
    intro member
    have third := third_moreText count
    rcases List.mem_pair.mp member with same | same <;> rw [same] at third <;> cases third
  cases listed with
  | absent none => simp [none]
  | whole some few listed =>
      have absent : moreText count ∉ _ := fun member => listed.third _ member (third_moreText count)
      simp only [List.mem_append, heading, absent, or_self, false_iff]
      omega
  | cut many listed =>
      have absent : moreText count ∉ _ := fun member => listed.third _ member (third_moreText count)
      simp only [List.mem_append, heading, absent, false_or, List.mem_singleton, many, true_and]
      exact ⟨moreText_injective, congrArg moreText⟩

/-- A number has no line feed in it. -/
theorem newline_not_mem_toString (number : Nat) : '\n' ∉ (toString number).toList := by
  intro member
  cases isDigit_of_mem_toString number '\n' member

/-- An item has no line feed in it if its label has none. -/
theorem newline_not_mem_itemText (number : Nat) (label : String) (clean : '\n' ∉ label.toList) :
    '\n' ∉ (itemText number label).toList := by
  simp only [itemText, String.toList_append, List.mem_append, not_or]
  exact ⟨⟨⟨by decide, newline_not_mem_toString number⟩, by decide⟩, clean⟩

theorem newline_not_mem_moreText (count : Nat) : '\n' ∉ (moreText count).toList := by
  simp only [moreText, String.toList_append, List.mem_append, not_or]
  exact ⟨⟨by decide, newline_not_mem_toString count⟩, by decide⟩

theorem newline_not_mem_countsText (passed failed skipped : Nat) :
    '\n' ∉ (countsText passed failed skipped).toList := by
  unfold countsText
  simp only [String.toList_append, List.mem_append, not_or, newline_not_mem_toString,
    not_false_eq_true, and_true]
  decide

/-- Lines on failures have no line feeds if the labels have none. -/
theorem ListsFailures.clean {number : Nat} {entries : List SummaryEntry} {lines : List String}
    (listed : ListsFailures number entries lines)
    (labels : ∀ entry ∈ entries, '\n' ∉ entry.label.toList) :
    ∀ line ∈ lines, '\n' ∉ line.toList := by
  induction listed with
  | nil => exact nofun
  | @cons number entry rest messageLines lines message others ih =>
      obtain ⟨own, later⟩ := List.forall_mem_cons.mp labels
      rw [List.forall_mem_append, List.forall_mem_cons, List.forall_mem_map]
      refine ⟨⟨newline_not_mem_itemText number entry.label own, fun line member => ?_⟩, ih later⟩
      rw [String.toList_append, List.mem_append, not_or]
      exact ⟨by decide, message.clean line member⟩

/-- A section on failures has no line feeds if the labels have none. -/
theorem IsFailureSection.clean {failures : List SummaryEntry} {lines : List String}
    (listed : IsFailureSection failures lines)
    (labels : ∀ entry ∈ failures, '\n' ∉ entry.label.toList) :
    ∀ line ∈ lines, '\n' ∉ line.toList := by
  have heading : ∀ line ∈ ["", "failed:"], '\n' ∉ line.toList := by decide
  cases listed with
  | absent => exact nofun
  | whole some few listed => exact List.forall_mem_append.mpr ⟨heading, listed.clean labels⟩
  | cut many listed =>
      have first := listed.clean fun entry member => labels entry (List.mem_of_mem_take member)
      rw [List.forall_mem_append, List.forall_mem_append, List.forall_mem_singleton]
      exact ⟨⟨heading, first⟩, newline_not_mem_moreText _⟩

/-- A section on skips has no line feeds if the labels have none. -/
theorem IsSkipSection.clean {skips : List SummaryEntry} {lines : List String}
    (listed : IsSkipSection skips lines)
    (labels : ∀ entry ∈ skips, '\n' ∉ entry.label.toList) :
    ∀ line ∈ lines, '\n' ∉ line.toList := by
  have heading : ∀ line ∈ ["", "no schema defined:"], '\n' ∉ line.toList := by decide
  cases listed with
  | absent => exact nofun
  | @listed distinct some isDistinct =>
      refine List.forall_mem_append.mpr ⟨heading, fun line member => ?_⟩
      obtain ⟨place, within, rfl⟩ := List.mem_mapIdx.mp member
      have skipped := (isDistinct.mem_iff distinct[place]).mp (List.getElem_mem within)
      obtain ⟨entry, inside, same⟩ := List.mem_map.mp skipped
      exact newline_not_mem_itemText _ _ (same ▸ labels entry inside)

/-- A report has a line with the counts, a section on failures and one on skips; these are the lines
of its text if no label has a line feed. -/
theorem report_accounts_for_outcomes (summary : Summary) :
    ∃ failureLines skipLines lines : List String,
      IsFailureSection summary.failures failureLines ∧
      IsSkipSection summary.skips skipLines ∧
      lines = countsText summary.passed summary.failures.length summary.skips.length ::
        (failureLines ++ skipLines) ∧
      summary.report = String.join (lines.map (· ++ "\n")) ∧
      (∀ count, moreText count ∈ lines ↔
        20 < summary.failures.length ∧ count = summary.failures.length - 20) ∧
      ((∀ entry ∈ summary.failures ++ summary.skips, '\n' ∉ entry.label.toList) →
        Text.split '\n' summary.report = lines ++ [""]) := by
  have failures := isFailureSection_failureSection summary
  have skips := isSkipSection_skipSection summary
  refine ⟨summary.failureSection, summary.skipSection, _, failures, skips, rfl, report_eq summary,
    fun count => ?_, fun labels => ?_⟩
  · have counts : moreText count ≠
        countsText summary.passed summary.failures.length summary.skips.length := by
      intro same
      have third := third_moreText count
      rw [same, third_countsText] at third
      cases third
    have skipped : moreText count ∉ summary.skipSection :=
      fun member => skips.third _ member (third_moreText count)
    rw [List.mem_cons, List.mem_append, ← failures.moreText_mem_iff count]
    simp only [counts, skipped, false_or, or_false]
  · obtain ⟨failed, skipped⟩ := List.forall_mem_append.mp labels
    rw [report_eq]
    refine split_join_ended _ (List.forall_mem_cons.mpr ⟨newline_not_mem_countsText _ _ _, ?_⟩)
    exact List.forall_mem_append.mpr ⟨failures.clean failed, skips.clean skipped⟩

/-- A label with a line feed in it is one line of the report, and looks like two in the text. -/
example : let label := "GET /users\n" ++ moreText 5
    let summary : Summary := ⟨0, [⟨label, "refused"⟩], []⟩
    summary.failureSection = ["", "failed:", itemText 1 label, "     refused"] ∧
      moreText 5 ∈ Text.split '\n' summary.report := by
  decide +kernel

end Summary

namespace CutReport

open Summary

/-- One failure more than a report lists, and a label that was skipped twice. -/
def summary : Summary :=
  ⟨3, List.replicate 21 ⟨"user: GET /users 200", "schema validation failed:\n  - id"⟩,
    [⟨"news: GET /news 200", "no schema"⟩, ⟨"news: GET /news 200", "no schema"⟩]⟩

/-- The lines of the report say that all outcomes were checked and that there is one more failure. -/
theorem report_tells_of_one_more :
    (∀ entry ∈ summary.failures ++ summary.skips, '\n' ∉ entry.label.toList) ∧
      ∃ rest, Text.split '\n' summary.report = countsText 3 21 2 :: rest ++ [""] ∧
        moreText 1 ∈ countsText 3 21 2 :: rest := by
  have clean : ∀ entry ∈ summary.failures ++ summary.skips, '\n' ∉ entry.label.toList := by
    decide +kernel
  obtain ⟨failureLines, skipLines, lines, -, -, whole, -, more, parts⟩ :=
    report_accounts_for_outcomes summary
  subst whole
  exact ⟨clean, failureLines ++ skipLines, parts clean, (more 1).mpr (by decide)⟩

end CutReport

end ApiContract
