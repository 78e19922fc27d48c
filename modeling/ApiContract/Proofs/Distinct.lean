import Mathlib.Tactic

/-
This file says what is left of a list without its repetitions: every item once, in the order of the
first places.
-/

namespace ApiContract

variable {α : Type} [DecidableEq α] (items : List α)

/-- An item at the end of a list is kept if it is the first of its kind. -/
theorem eraseDups_concat (item : α) :
    (items ++ [item]).eraseDups =
      if item ∈ items then items.eraseDups else items.eraseDups ++ [item] := by
  rw [List.eraseDups_append, List.removeAll, List.filter_singleton]
  by_cases old : item ∈ items
  · simp [old]
  · simp [old, List.eraseDups_cons]

/-- The items that are left without repetitions keep the order of their first places. -/
theorem pairwise_idxOf_eraseDups :
    items.eraseDups.Pairwise fun first second => items.idxOf first < items.idxOf second := by
  induction items using List.reverseRecOn with
  | nil => exact .nil
  | append_singleton items item ih =>
      have kept {first : α} (member : first ∈ items.eraseDups) :
          (items ++ [item]).idxOf first = items.idxOf first :=
        List.idxOf_append_of_mem (List.mem_eraseDups.mp member)
      have before : items.eraseDups.Pairwise fun first second =>
          (items ++ [item]).idxOf first < (items ++ [item]).idxOf second := by
        refine ih.imp_of_mem fun first second less => ?_
        rwa [kept first, kept second]
      rw [eraseDups_concat]
      split
      · exact before
      · next new =>
          refine List.pairwise_append.mpr ⟨before, List.pairwise_singleton _ _, ?_⟩
          intro first member last same
          cases List.mem_singleton.mp same
          rw [kept member, List.idxOf_append_of_notMem new, List.idxOf_cons_self, Nat.add_zero]
          exact List.idxOf_lt_length_of_mem (List.mem_eraseDups.mp member)

/-- Without repetitions every item is left once. -/
theorem nodup_eraseDups : items.eraseDups.Nodup := by
  apply (pairwise_idxOf_eraseDups items).imp
  intro first second less same
  rw [same] at less
  omega

/-- Whether a list has each item of another one once, in the order of their first places. -/
structure IsDistinct (distinct items : List α) : Prop where
  once : distinct.Nodup
  mem_iff : ∀ item, item ∈ distinct ↔ item ∈ items
  inOrder : distinct.Pairwise fun first second => items.idxOf first < items.idxOf second

/-- The distinct items of a list are none if the list has none. -/
theorem IsDistinct.eq_nil_iff {distinct items : List α} (isDistinct : IsDistinct distinct items) :
    distinct = [] ↔ items = [] := by
  simp only [List.eq_nil_iff_forall_not_mem, isDistinct.mem_iff]

/-- There is one list that has each item of another one once, in the order of their first places. -/
theorem IsDistinct.unique {distinct distinct' items : List α} (isDistinct : IsDistinct distinct items)
    (isDistinct' : IsDistinct distinct' items) : distinct = distinct' := by
  let before (first second : α) : Prop := items.idxOf first < items.idxOf second
  have irreflexive : Std.Irrefl before := ⟨fun item => Nat.lt_irrefl _⟩
  have antisymmetric : Std.Antisymm before :=
    ⟨fun _ _ earlier later => absurd earlier (Nat.lt_asymm later)⟩
  have same (item : α) : item ∈ distinct ↔ item ∈ distinct' := by
    rw [isDistinct.mem_iff, isDistinct'.mem_iff]
  exact List.Pairwise.eq_of_mem_iff isDistinct.inOrder isDistinct'.inOrder same

/-- The library's way to drop repetitions keeps the first of each item. -/
theorem isDistinct_eraseDups : IsDistinct items.eraseDups items :=
  ⟨nodup_eraseDups items, fun _ => List.mem_eraseDups, pairwise_idxOf_eraseDups items⟩

end ApiContract
