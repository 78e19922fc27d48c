import ApiContract.Proofs.Json.Forest
import ApiContract.Proofs.Yaml.Conversion

/-
This file proves that every document that is read is an object, and that in it the members of all
objects stand in key order, each key once, whether the document is JSON or YAML.
-/

namespace ApiContract

namespace Json

/-- A fault at the next character is no result. -/
theorem Rest.failNext_ne_ok {α : Type} (rest : Rest) (fault : ReadFault) (result : α) :
    rest.failNext fault ≠ .ok result := by
  rw [failNext]
  split <;> exact nofun

/-- What is read of an array: nothing more, or an item with what follows it. -/
theorem readItems_cases {fuel depth : Nat} {first : Bool} {rest rest' : Rest} {items : List Json}
    (read : readItems (fuel + 1) depth first rest = .ok (items, rest')) :
    items = [] ∨ ∃ item others between after, items = item :: others ∧
      readValue fuel depth between = .ok (item, after) ∧
        readItems fuel depth false after = .ok (others, rest') := by
  -- whatever stands before an item, the item is read after it
  have onward (start : Except ReadError Rest)
      (read : (do
        let item ← readValue fuel depth (← start)
        let others ← readItems fuel depth false item.2
        return (item.1 :: others.1, others.2)) = Except.ok (items, rest')) :
      items = [] ∨ ∃ item others between after, items = item :: others ∧
        readValue fuel depth between = .ok (item, after) ∧
          readItems fuel depth false after = .ok (others, rest') := by
    obtain ⟨between, -, read⟩ := (bind_eq_ok_iff _ _ _).mp read
    obtain ⟨⟨item, after⟩, own, read⟩ := (bind_eq_ok_iff _ _ _).mp read
    obtain ⟨⟨others, last⟩, later, same⟩ := (bind_eq_ok_iff _ _ _).mp read
    cases same
    exact .inr ⟨item, others, between, after, rfl, own, later⟩
  unfold readItems at read
  dsimp only at read
  split at read
  · exact absurd read (Rest.failNext_ne_ok _ _ _)
  · cases read
    exact .inl rfl
  · repeat' split at read
    all_goals exact onward _ read

/-- What is read of an object: nothing more, or a member with what follows it. -/
theorem readMembers_cases {fuel depth : Nat} {first : Bool} {rest rest' : Rest}
    {members : List (String × Json)}
    (read : readMembers (fuel + 1) depth first rest = .ok (members, rest')) :
    members = [] ∨ ∃ key value others between after, members = (key, value) :: others ∧
      readValue fuel depth between = .ok (value, after) ∧
        readMembers fuel depth false after = .ok (others, rest') := by
  have valueOnward (key : String) (start : Except ReadError Rest)
      (read : (do
        let value ← readValue fuel depth (← start)
        let others ← readMembers fuel depth false value.2
        return ((key, value.1) :: others.1, others.2)) = Except.ok (members, rest')) :
      members = [] ∨ ∃ key value others between after, members = (key, value) :: others ∧
        readValue fuel depth between = .ok (value, after) ∧
          readMembers fuel depth false after = .ok (others, rest') := by
    obtain ⟨between, -, read⟩ := (bind_eq_ok_iff _ _ _).mp read
    obtain ⟨⟨value, after⟩, own, read⟩ := (bind_eq_ok_iff _ _ _).mp read
    obtain ⟨⟨others, last⟩, later, same⟩ := (bind_eq_ok_iff _ _ _).mp read
    cases same
    exact .inr ⟨key, value, others, between, after, rfl, own, later⟩
  unfold readMembers at read
  dsimp only at read
  split at read
  · exact absurd read (Rest.failNext_ne_ok _ _ _)
  · cases read
    exact .inl rfl
  · repeat' split at read
    all_goals
      obtain ⟨_, -, read⟩ := (bind_eq_ok_iff _ _ _).mp read
      obtain ⟨⟨key, _⟩, -, read⟩ := (bind_eq_ok_iff _ _ _).mp read
      dsimp only at read
      split at read <;> exact valueOnward key _ read

mutual

/-- Objects are read with their members in their places, at any depth. -/
theorem sorted_of_readValue {fuel depth : Nat} {rest rest' : Rest} {value : Json}
    (read : readValue fuel depth rest = .ok (value, rest')) : value.Sorted := by
  cases fuel with
  | zero =>
      unfold readValue at read
      cases read
  | succ fuel =>
      unfold readValue at read
      dsimp only at read
      split at read
      -- apart from the scalars: the end of the text, an array, an object, a digit or nothing known
      case h_1 => exact absurd read (Rest.failNext_ne_ok _ _ _)
      case h_7 =>
        cases depth with
        | zero => exact absurd read (Rest.failNext_ne_ok _ _ _)
        | succ depth =>
            obtain ⟨⟨items, _⟩, inner, same⟩ := (bind_eq_ok_iff _ _ _).mp read
            cases same
            exact (sorted_array items).mpr (sorted_of_readItems inner)
      case h_8 =>
        cases depth with
        | zero => exact absurd read (Rest.failNext_ne_ok _ _ _)
        | succ depth =>
            obtain ⟨⟨unordered, _⟩, inner, same⟩ := (bind_eq_ok_iff _ _ _).mp read
            cases same
            refine (sorted_object _).mpr ⟨sortMembers_ordered unordered, fun member inside => ?_⟩
            exact sorted_of_readMembers inner member (mem_of_mem_sortMembers inside)
      case h_9 =>
        split at read
        · obtain ⟨_, _, same⟩ := (bind_eq_ok_iff _ _ _).mp read
          cases same
          exact .intro _ .nil nofun
        · exact absurd read (Rest.failNext_ne_ok _ _ _)
      all_goals
        obtain ⟨_, _, same⟩ := (bind_eq_ok_iff _ _ _).mp read
        cases same
        exact .intro _ .nil nofun

/-- Items are read in order. -/
theorem sorted_of_readItems {fuel depth : Nat} {first : Bool} {rest rest' : Rest}
    {items : List Json} (read : readItems fuel depth first rest = .ok (items, rest')) :
    ∀ item ∈ items, item.Sorted := by
  cases fuel with
  | zero =>
      unfold readItems at read
      cases read
  | succ fuel =>
      obtain rfl | ⟨item, others, between, after, rfl, own, later⟩ := readItems_cases read
      · exact List.forall_mem_nil _
      · exact List.forall_mem_cons.mpr ⟨sorted_of_readValue own, sorted_of_readItems later⟩

/-- The values of members are read in order. -/
theorem sorted_of_readMembers {fuel depth : Nat} {first : Bool} {rest rest' : Rest}
    {members : List (String × Json)}
    (read : readMembers fuel depth first rest = .ok (members, rest')) :
    ∀ member ∈ members, member.2.Sorted := by
  cases fuel with
  | zero =>
      unfold readMembers at read
      cases read
  | succ fuel =>
      obtain rfl | ⟨key, value, others, between, after, rfl, own, later⟩ := readMembers_cases read
      · exact List.forall_mem_nil _
      · exact List.forall_mem_cons.mpr ⟨sorted_of_readValue own, sorted_of_readMembers later⟩

end

/-- A text of the one format is read as a document in order. -/
theorem sorted_of_parse {text : String} {document : Json} (read : parse text = .ok document) :
    document.Sorted := by
  obtain ⟨⟨value, rest⟩, made, last⟩ := (bind_eq_ok_iff _ _ _).mp read
  dsimp only at last
  split at last
  · cases last
    exact sorted_of_readValue made
  · exact absurd last (Rest.failNext_ne_ok _ _ _)

end Json

namespace Yaml

/-- The form of a tree has the members of its objects in order. -/
theorem Node.HasForm.sorted {node : Node} {json : Json} (form : node.HasForm json) :
    json.Sorted := by
  induction form with
  | sequence items items' same each ih =>
      rw [Json.sorted_array, List.forall_mem_iff_getElem]
      intro index inside
      exact ih index items[index] items'[index] (List.getElem?_eq_getElem _)
        (List.getElem?_eq_getElem inside)
  | mapping entries members ordered names last ih =>
      refine (Json.sorted_object members).mpr ⟨ordered, fun member inside => ?_⟩
      have present := (names member.1).mp (List.mem_map_of_mem inside)
      obtain ⟨entry, found⟩ := exists_lastNamed entries member.1 present
      exact ih member.1 member.2 entry inside found
  | tagged _ _ _ _ ih => exact ih
  | _ => exact .intro _ .nil nofun

end Yaml

namespace Document

/-- A text of either format is read as a document in order. -/
theorem sorted_of_parse {text : String} {format : DocumentFormat} {document : Json}
    (parsed : parse text format = .ok document) : document.Sorted := by
  cases format with
  | json =>
      rw [parse] at parsed
      split at parsed
      · next read =>
          cases parsed
          exact Json.sorted_of_parse read
      · cases parsed
  | yaml =>
      rw [parse] at parsed
      split at parsed
      · cases parsed
      · split at parsed
        · next made =>
            cases parsed
            exact (Yaml.Node.hasForm_of_toJson made).sorted
        · cases parsed

/-- A document that is read is an object, and the members of all its objects are in order. -/
theorem sorted_of_read {files : FileSystem} {path : Path} {document : Json}
    (held : read files path = .ok document) :
    document.Sorted ∧ ∃ members, document = .object members := by
  rw [read] at held
  split at held
  · cases held
  · split at held
    · cases held
    · next parsed =>
        split at held
        · next mapping =>
            cases held
            refine ⟨sorted_of_parse parsed, ?_⟩
            cases document with
            | object members => exact ⟨members, rfl⟩
            | _ => cases mapping
        · cases held

/-- A file is loaded as a document in order. -/
theorem sorted_of_load? {files : FileSystem} {path : Path} {document : Json}
    (loaded : load? files path = some document) : document.Sorted :=
  (sorted_of_read (eq_ok_of_toOption loaded)).1

end Document

end ApiContract
