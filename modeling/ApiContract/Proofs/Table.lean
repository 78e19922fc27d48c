import ApiContract.Table
import Mathlib.Data.String.Basic
import Mathlib.Tactic

/-
This file proves what putting a value into a table changes, that entries in key order are found by
their keys, and that tables with the same keys are compared entry by entry.
-/

namespace ApiContract

namespace Table

variable {α β : Type}

/-- A look-up asks the first entry before the others. -/
theorem lookup_cons (key other : String) (value : α)
    (members : List (String × α)) :
    ((key, value) :: members).lookup other =
      if other = key then some value else members.lookup other := by
  rw [List.lookup_cons]
  by_cases same : other = key
  · rw [if_pos same, beq_iff_eq.mpr same]
  · rw [if_neg same, beq_false_of_ne same]

/-- Putting a value into a table changes what its key names, and nothing else. -/
theorem lookup_insert (key other : String) (value : α)
    (entries : List (String × α)) :
    (insert key value entries).lookup other =
      if other = key then some value else entries.lookup other := by
  induction entries with
  | nil => rw [insert, lookup_cons]
  | cons entry rest ih =>
      obtain ⟨here, held⟩ := entry
      rw [insert]
      split
      · rw [lookup_cons]
      · split
        · next replaced =>
            subst replaced
            rw [lookup_cons, lookup_cons]
            split <;> rfl
        · next kept =>
            rw [lookup_cons, lookup_cons, ih]
            split
            · next same => rw [if_neg fun equal => kept (equal.symm.trans same)]
            · rfl

/-- Entries in key order are found by their keys. -/
theorem InOrder.lookup_of_mem {entries : List (String × α)}
    (ordered : InOrder entries) {entry : String × α} (inside : entry ∈ entries) :
    entries.lookup entry.1 = some entry.2 := by
  induction entries with
  | nil => cases inside
  | cons first rest ih =>
      obtain ⟨above, others⟩ := List.pairwise_cons.mp ordered
      rw [lookup_cons]
      rcases List.mem_cons.mp inside with rfl | below
      · rw [if_pos rfl]
      · rw [if_neg (above entry below).ne', ih others below]

/-- What is found in a table is one of its entries. -/
theorem mem_of_lookup (members : List (String × α)) (key : String) (value : α)
    (found : members.lookup key = some value) : (key, value) ∈ members := by
  induction members with
  | nil => cases found
  | cons member rest ih =>
      obtain ⟨other, held⟩ := member
      rw [List.lookup_cons] at found
      split at found
      · next same =>
          cases found
          rw [beq_iff_eq.mp same]
          exact .head _
      · exact .tail _ (ih found)

/-- Whether two entries have one key, and values that are related under it. -/
def SameKey (relation : String → α → β → Prop) (entry : String × α)
    (entry' : String × β) : Prop :=
  entry.1 = entry'.1 ∧ relation entry.1 entry.2 entry'.2

/-- In tables with the same keys, a key names related values. -/
theorem lookup_rel {relation : String → α → β → Prop} {entries : List (String × α)}
    {entries' : List (String × β)} (related : List.Forall₂ (SameKey relation) entries entries')
    (key : String) : Option.Rel (relation key) (entries.lookup key) (entries'.lookup key) := by
  induction related with
  | nil => exact .none
  | @cons entry entry' _ _ first _ ih =>
      rw [lookup_cons, lookup_cons, ← first.1]
      split
      · next same =>
          subst same
          exact .some first.2
      · exact ih

/-- Lists are related item by item if they are as long and the items at one index are related. -/
theorem forall₂_of_getElem? {relation : α → β → Prop} {items : List α}
    {items' : List β} (same : items'.length = items.length)
    (each : ∀ (index : Nat) (item : α) (item' : β), items[index]? = some item →
      items'[index]? = some item' → relation item item') : List.Forall₂ relation items items' := by
  rw [List.forall₂_iff_get]
  refine ⟨same.symm, fun index inside inside' => ?_⟩
  exact each index _ _ (List.getElem?_eq_getElem inside) (List.getElem?_eq_getElem inside')

/-- Tables with the same keys are related entry by entry, if the values at one index are. -/
theorem forall₂_entries (relation : String → α → β → Prop)
    {entries : List (String × α)} {entries' : List (String × β)}
    (keys : entries'.map (·.1) = entries.map (·.1))
    (each : ∀ (index : Nat) (entry : String × α) (entry' : String × β),
      entries[index]? = some entry → entries'[index]? = some entry' →
        relation entry.1 entry.2 entry'.2) :
    List.Forall₂ (SameKey relation) entries entries' := by
  have lengths := congrArg List.length keys
  rw [List.length_map, List.length_map] at lengths
  refine forall₂_of_getElem? lengths fun index entry entry' here here' => ?_
  have keyed := congrArg (fun list => list[index]?) keys
  simp only [List.getElem?_map, here, here', Option.map_some, Option.some.injEq] at keyed
  exact ⟨keyed.symm, each index entry entry' here here'⟩

/-- Inserting under a new key adds an entry. -/
theorem insert_perm {key : String} {members : List (String × α)}
    (new : key ∉ members.map (·.1)) (value : α) :
    (insert key value members).Perm ((key, value) :: members) := by
  induction members with
  | nil => exact .refl _
  | cons first rest ih =>
      obtain ⟨other, held⟩ := first
      rw [List.map_cons, List.mem_cons, not_or] at new
      rw [insert, if_neg new.1]
      split
      · exact .refl _
      · exact ((ih new.2).cons _).trans (.swap _ _ _)

/-- Tables in key order with the same members are the same. -/
theorem InOrder.eq_of_mem_iff {members members' : List (String × α)} (ordered : InOrder members)
    (ordered' : InOrder members') (same : ∀ member, member ∈ members ↔ member ∈ members') :
    members = members' := by
  have irreflexive : Std.Irrefl fun first second : String × α => first.1 < second.1 :=
    ⟨fun member => lt_irrefl member.1⟩
  have antisymmetric : Std.Antisymm fun first second : String × α => first.1 < second.1 :=
    ⟨fun _ _ before after => absurd before after.asymm⟩
  exact List.Pairwise.eq_of_mem_iff ordered ordered' same

end Table

end ApiContract
