import ApiContract.Json.Basic
import ApiContract.Proofs.Table

/-
This file proves which members an object has that is made of members in any order.
-/

namespace ApiContract

namespace Json

/-- A last member is put in among the others. -/
theorem sortMembers_append (members : List (String × Json)) (member : String × Json) :
    sortMembers (members ++ [member]) = Table.insert member.1 member.2 (sortMembers members) := by
  rw [sortMembers, List.foldl_append]
  rfl

/-- Sorted members stand in the order of their keys. -/
theorem sortMembers_ordered (members : List (String × Json)) : Table.InOrder (sortMembers members) := by
  induction members using List.reverseRecOn with
  | nil => exact .nil
  | append_singleton members member ih =>
      rw [sortMembers_append]
      exact ih.insert member.1 member.2

/-- Sorting makes up no members. -/
theorem mem_of_mem_sortMembers {members : List (String × Json)} {member : String × Json}
    (held : member ∈ sortMembers members) : member ∈ members := by
  induction members using List.reverseRecOn with
  | nil => cases held
  | append_singleton members last ih =>
      rw [sortMembers_append] at held
      rcases Table.mem_insert held with rfl | earlier
      · exact List.mem_append_right _ (.head _)
      · exact List.mem_append_left _ (ih earlier)

/-- Members with distinct keys are all kept when they are sorted. -/
theorem sortMembers_perm {members : List (String × Json)}
    (distinct : (members.map (·.1)).Nodup) : (sortMembers members).Perm members := by
  induction members using List.reverseRecOn with
  | nil => exact .refl _
  | append_singleton members member ih =>
      rw [List.map_append, List.map_singleton, List.nodup_append_comm, List.singleton_append,
        List.nodup_cons] at distinct
      have kept := ih distinct.2
      have new : member.1 ∉ (sortMembers members).map (·.1) := by
        rw [(kept.map (·.1)).mem_iff]
        exact distinct.1
      rw [sortMembers_append]
      exact ((Table.insert_perm new member.2).trans (kept.cons member)).trans
        (List.perm_append_singleton member members).symm

/-- Of the members with one key, sorting keeps the last. -/
theorem lookup_sortMembers (members : List (String × Json)) (key : String) :
    (sortMembers members).lookup key =
      ((members.filter fun member => member.1 = key).getLast?).map (·.2) := by
  induction members using List.reverseRecOn with
  | nil => rfl
  | append_singleton members member ih =>
      rw [sortMembers_append, Table.lookup_insert, List.filter_append]
      by_cases same : key = member.1
      · simp [same]
      · simp [same, Ne.symm same, ih]

/-- Sorting keeps every key. -/
theorem mem_keys_sortMembers (members : List (String × Json)) (name : String) :
    name ∈ (sortMembers members).map (·.1) ↔ name ∈ members.map (·.1) := by
  have keyed (table : List (String × Json)) :
      name ∈ table.map (·.1) ↔ (table.lookup name).isSome = true := by
    rw [List.lookup_isSome_iff, List.mem_map]
    exact exists_congr fun member => and_congr_right fun _ => by rw [beq_iff_eq, eq_comm]
  rw [keyed, lookup_sortMembers, Option.isSome_map, Option.isSome_iff_ne_none, Ne,
    List.getLast?_eq_none_iff, List.filter_eq_nil_iff]
  simp

end Json

end ApiContract
