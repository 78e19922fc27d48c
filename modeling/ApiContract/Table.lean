/-
This file holds tables: lists of values under keys, in the order of the keys.
-/

namespace ApiContract

namespace Table

variable {α : Type}

/-- Puts a value under its key in its place; one with the same key is replaced. -/
def insert (key : String) (value : α) : List (String × α) → List (String × α)
  | [] => [(key, value)]
  | (other, held) :: rest =>
      if key < other then (key, value) :: (other, held) :: rest
      else if key = other then (key, value) :: rest
      else (other, held) :: insert key value rest

/-- Whether the entries of a table stand in the order of their keys, each key once. -/
def InOrder (entries : List (String × α)) : Prop :=
  entries.Pairwise fun first second => first.1 < second.1

/-- An entry of a table was put in last or was there before. -/
theorem mem_insert {key : String} {value : α} {entries : List (String × α)} {entry : String × α}
    (held : entry ∈ insert key value entries) : entry = (key, value) ∨ entry ∈ entries := by
  induction entries with
  | nil => exact .inl (List.mem_singleton.mp held)
  | cons first rest ih =>
      obtain ⟨other, inside⟩ := first
      rw [insert] at held
      split at held
      · exact List.mem_cons.mp held
      · split at held
        · exact (List.mem_cons.mp held).imp_right (.tail _)
        · rcases List.mem_cons.mp held with rfl | below
          · exact .inr (.head _)
          · exact (ih below).imp_right (.tail _)

/-- An entry that is put in its place keeps the order of the keys. -/
theorem InOrder.insert {entries : List (String × α)} (ordered : InOrder entries) (key : String)
    (value : α) : InOrder (insert key value entries) := by
  induction entries with
  | nil => exact List.pairwise_singleton _ _
  | cons first rest ih =>
      obtain ⟨other, held⟩ := first
      obtain ⟨above, others⟩ := List.pairwise_cons.mp ordered
      rw [Table.insert]
      split
      · next before =>
          refine List.pairwise_cons.mpr ⟨fun entry inside => ?_, ordered⟩
          rcases List.mem_cons.mp inside with rfl | below
          · exact before
          · exact String.lt_trans before (above entry below)
      · next after =>
          split
          · next same => exact List.pairwise_cons.mpr ⟨same ▸ above, others⟩
          · next different =>
              have behind : other < key :=
                Std.lt_of_le_of_ne (String.not_lt.mp after) (Ne.symm different)
              refine List.pairwise_cons.mpr ⟨fun entry inside => ?_, ih others⟩
              rcases mem_insert inside with rfl | below
              · exact behind
              · exact above entry below

end Table

end ApiContract
