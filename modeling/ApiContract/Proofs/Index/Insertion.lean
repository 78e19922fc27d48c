import ApiContract.ModuleIndex
import ApiContract.Proofs.Distinct
import ApiContract.Proofs.Json.Members
import ApiContract.Proofs.Route.Endpoint

/-
This file treats an index as what a sequence of insertions leaves: the last schema of each key, and a
route for each key of a response in the place where it came first.
-/

namespace ApiContract

/-- A schema with what it is stored under. -/
inductive Insertion where
  | response (key : ResponseKey) (schema : Json)
  | request (operation : String) (schema : Json)

namespace Insertion

def key : Insertion → String
  | response key _ => key.text
  | request operation _ => requestKey operation

def schema : Insertion → Json
  | response _ schema => schema
  | request _ schema => schema

def responseKey? : Insertion → Option ResponseKey
  | response key _ => some key
  | request _ _ => none

/-- The keys of the responses among some insertions. -/
def responseKeys (insertions : List Insertion) : List ResponseKey :=
  insertions.filterMap responseKey?

/-- A last insertion adds its response key, if it has one. -/
theorem responseKeys_concat (insertions : List Insertion) (insertion : Insertion) :
    responseKeys (insertions ++ [insertion]) =
      responseKeys insertions ++ insertion.responseKey?.toList := by
  rw [responseKeys, List.filterMap_append, List.filterMap_eq_flatMap_toList responseKey? [insertion],
    List.flatMap_singleton, responseKeys]

/-- The last schema for the key of a response. -/
def lastSchema? (insertions : List Insertion) (key : ResponseKey) : Option Json :=
  ((insertions.filter fun insertion => insertion.responseKey? = some key).getLast?).map schema

/-- A key has a last schema if it was inserted. -/
theorem isSome_lastSchema?_iff (insertions : List Insertion) (key : ResponseKey) :
    (lastSchema? insertions key).isSome = true ↔ key ∈ responseKeys insertions := by
  rw [lastSchema?, Option.isSome_map, List.getLast?_isSome, ← List.isEmpty_eq_false_iff,
    List.isEmpty_eq_false_iff_exists_mem, responseKeys, List.mem_filterMap]
  simp only [List.mem_filter, decide_eq_true_eq]

end Insertion

namespace ModuleIndex

open Insertion

/-- Whether the key of a response with a status is no key of another body. -/
def ClearStatus (status : String) : Prop :=
  ' ' ∉ status.toList ∧ Text.endsWith status "_request" = false

/-- The route that a response with a schema gets. -/
def routeOf (key : ResponseKey) : ResponseRoute := ⟨key.method, .ofString key.path, key.status⟩

def insert (index : ModuleIndex) : Insertion → ModuleIndex
  | .response key schema => index.insertResponse key schema
  | .request operation schema => index.insertRequest operation schema

/-- The index after some insertions. -/
def insertAll (index : ModuleIndex) (insertions : List Insertion) : ModuleIndex :=
  insertions.foldl insert index

/-- A last insertion is made into the index of those before it. -/
theorem insertAll_append (index : ModuleIndex) (insertions : List Insertion)
    (insertion : Insertion) :
    index.insertAll (insertions ++ [insertion]) = (index.insertAll insertions).insert insertion := by
  rw [insertAll, List.foldl_append]
  rfl

/-- An insertion puts its schema under its key. -/
theorem schemas_insert (index : ModuleIndex) (insertion : Insertion) :
    (index.insert insertion).schemas =
      Table.insert insertion.key insertion.schema index.schemas := by
  cases insertion <;> rfl

variable (name : String) (specPath : Path) (insertions : List Insertion)

/-- The schemas of an index stand in the order of their keys. -/
theorem schemas_insertAll :
    ((empty name specPath).insertAll insertions).schemas =
      Json.sortMembers (insertions.map fun insertion => (insertion.key, insertion.schema)) := by
  induction insertions using List.reverseRecOn with
  | nil => rfl
  | append_singleton insertions insertion ih =>
      rw [insertAll_append, schemas_insert, ih, List.map_append, List.map_singleton,
        Json.sortMembers_append]

/-- Of the schemas with one key, the last is kept. -/
theorem schema?_insertAll (key : String) :
    ((empty name specPath).insertAll insertions).schema? key =
      ((insertions.filter fun insertion => insertion.key = key).getLast?).map Insertion.schema := by
  rw [schema?, schemas_insertAll, Json.lookup_sortMembers, List.filter_map, List.getLast?_map,
    Option.map_map]
  rfl

/-- Under the key of a response only responses with that very key are stored. -/
theorem key_eq_text_iff (insertion : Insertion) (key : ResponseKey) (clear : ClearStatus key.status)
    (own : ∀ other ∈ insertion.responseKey?, ClearStatus other.status) :
    insertion.key = key.text ↔ insertion.responseKey? = some key := by
  cases insertion with
  | response other schema =>
      have equal := ResponseKey.eq_of_text_eq other key (own other rfl).1 clear.1
      exact ⟨fun same => congrArg some (equal same), fun same => by cases same; rfl⟩
  | request operation schema =>
      have apart := key.text_ne_requestKey operation clear.2
      exact ⟨fun same => absurd same.symm apart, nofun⟩

section

variable (clear : ∀ key ∈ responseKeys insertions, ClearStatus key.status)

include clear

/-- The schema under the key of a response is the last one for that very key. -/
theorem schema?_insertAll_text (key : ResponseKey) (own : ClearStatus key.status) :
    ((empty name specPath).insertAll insertions).schema? key.text = lastSchema? insertions key := by
  rw [schema?_insertAll, lastSchema?]
  congr 2
  refine List.filter_congr fun insertion member => ?_
  rw [decide_eq_decide]
  refine key_eq_text_iff insertion key own fun other given => clear other ?_
  exact List.mem_filterMap.mpr ⟨insertion, member, given⟩

/-- A clear response key has a schema if it was inserted. -/
theorem isSome_schema?_insertAll (key : ResponseKey) (own : ClearStatus key.status) :
    (((empty name specPath).insertAll insertions).schema? key.text).isSome = true ↔
      key ∈ responseKeys insertions := by
  rw [schema?_insertAll_text name specPath insertions clear key own, isSome_lastSchema?_iff]

/-- The routes are the keys of the responses, each in the place where it came first. -/
theorem routes_insertAll :
    ((empty name specPath).insertAll insertions).routes =
      (responseKeys insertions).eraseDups.map routeOf := by
  induction insertions using List.reverseRecOn with
  | nil => rfl
  | append_singleton insertions insertion ih =>
      rw [responseKeys_concat] at clear ⊢
      have before : ∀ key ∈ responseKeys insertions, ClearStatus key.status :=
        fun key member => clear key (List.mem_append_left _ member)
      rw [insertAll_append]
      cases insertion with
      | request operation schema =>
          rw [responseKey?, Option.toList_none, List.append_nil, ← ih before]
          rfl
      | response key schema =>
          have known := isSome_schema?_insertAll name specPath insertions before key
            (clear key (List.mem_append_right _ (.head _)))
          rw [responseKey?, Option.toList_some, eraseDups_concat, insert, insertResponse]
          simp only [known, ih before]
          split
          · rfl
          · rw [List.map_append, List.map_singleton, routeOf]

end

end ModuleIndex

end ApiContract
