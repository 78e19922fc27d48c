import ApiContract.Reference
import ApiContract.Proofs.Json.Members

/-
This file treats arrays and objects alike, as nodes with children, and gives the induction over lists
of trees that every walk over a document follows. It also says what holds everywhere in a document.
-/

namespace ApiContract

namespace Json

/-- The trees directly below a node. -/
def children : Json → List Json
  | array items => items
  | object members => members.map (·.2)
  | _ => []

/-- A node with other trees below it. An object keeps its keys. -/
def withChildren (node : Json) (trees : List Json) : Json :=
  match node with
  | array _ => array trees
  | object members => object ((members.map (·.1)).zip trees)
  | other => other

/-- A node with its own children is the node. -/
@[simp] theorem withChildren_children (node : Json) : node.withChildren node.children = node := by
  cases node with
  | object members =>
      have keyed : (members.map (·.1)).zip (members.map (·.2)) = members := by
        rw [List.zip_map', List.map_id']
      rw [children, withChildren, keyed]
  | _ => rfl

/-- Other trees below a node are its children, if they are as many. -/
theorem children_withChildren (node : Json) (trees : List Json)
    (same : trees.length = node.children.length) : (node.withChildren trees).children = trees := by
  cases node with
  | array items => rfl
  | object members =>
      rw [children, List.length_map] at same
      rw [withChildren, children, List.map_snd_zip]
      rw [List.length_map, same]
  | _ => exact (List.length_eq_zero_iff.mp same).symm

/-- The children of a node are no larger than the node. -/
theorem sizeOf_children (node : Json) : sizeOf node.children ≤ sizeOf node := by
  cases node with
  | array items =>
      rw [children, array.sizeOf_spec]
      omega
  | object members =>
      have smaller : sizeOf (members.map (·.2)) ≤ sizeOf members := by
        induction members with
        | nil => simp
        | cons member rest ih =>
            obtain ⟨key, value⟩ := member
            simp only [List.map_cons, List.cons.sizeOf_spec, Prod.mk.sizeOf_spec]
            omega
      rw [children, object.sizeOf_spec]
      omega
  | _ => simp [children]

/-- What holds of a list of trees once it holds of the children of the first and of the rest, holds
of all lists of trees. -/
theorem forest_induction {motive : List Json → Prop} (empty : motive [])
    (cons : ∀ node rest, motive node.children → motive rest → motive (node :: rest)) :
    ∀ forest, motive forest
  | [] => empty
  | node :: rest =>
      cons node rest (forest_induction empty cons node.children) (forest_induction empty cons rest)
termination_by forest => sizeOf forest
decreasing_by
  · have smaller := node.sizeOf_children
    rw [List.cons.sizeOf_spec]
    omega
  · rw [List.cons.sizeOf_spec]
    omega

/-- What holds of a node once it holds of its children, holds of every node. -/
theorem children_induction {motive : Json → Prop}
    (step : ∀ node, (∀ child ∈ node.children, motive child) → motive node) (node : Json) :
    motive node := by
  have forest (trees : List Json) : ∀ tree ∈ trees, motive tree := by
    induction trees using forest_induction with
    | empty => exact nofun
    | cons node rest ihChildren ihRest =>
        exact List.forall_mem_cons.mpr ⟨step node ihChildren, ihRest⟩
  exact forest [node] node (.head _)

/-- Whether something holds of a node and of all nodes below it. -/
inductive Everywhere (property : Json → Prop) : Json → Prop where
  | intro (node : Json) (here : property node)
      (below : ∀ child ∈ node.children, Everywhere property child) : Everywhere property node

/-- What holds everywhere holds at the root. -/
theorem Everywhere.here {property : Json → Prop} {node : Json}
    (everywhere : node.Everywhere property) : property node := by
  cases everywhere with
  | intro _ here _ => exact here

/-- What holds everywhere holds everywhere in each child. -/
theorem Everywhere.child {property : Json → Prop} {node : Json}
    (everywhere : node.Everywhere property) (child : Json) (member : child ∈ node.children) :
    child.Everywhere property := by
  cases everywhere with
  | intro _ _ below => exact below child member

/-- A property holds everywhere if it holds at the root and in each child. -/
theorem everywhere_iff (property : Json → Prop) (node : Json) :
    node.Everywhere property ↔
      property node ∧ ∀ child ∈ node.children, child.Everywhere property :=
  ⟨fun everywhere => ⟨everywhere.here, everywhere.child⟩, fun ⟨here, below⟩ => .intro node here below⟩

/-- A member that is found is a child of its object. -/
theorem mem_children_of_lookup (members : List (String × Json)) (key : String) (value : Json)
    (found : members.lookup key = some value) : value ∈ (object members).children :=
  List.mem_map.mpr ⟨(key, value), Table.mem_of_lookup members key value found, rfl⟩

/-- One step down leads to a child. -/
theorem child?_mem_children (node inner : Json) (step : String)
    (found : node.child? step = some inner) : inner ∈ node.children := by
  unfold child? at found
  split at found
  · exact mem_children_of_lookup _ step inner found
  · obtain ⟨position, _, item⟩ := Option.bind_eq_some_iff.mp found
    exact List.mem_of_getElem? item
  · cases found

/-- What holds everywhere in a document holds everywhere below a pointer. -/
theorem Everywhere.at? {property : Json → Prop} {document node : Json} {pointer : String}
    (everywhere : document.Everywhere property) (found : document.at? pointer = some node) :
    node.Everywhere property := by
  have walk (steps : List String) (start : Json) (held : start.Everywhere property)
      (reached : steps.foldlM (fun node step => node.child? (Pointer.unescape step)) start =
        some node) : node.Everywhere property := by
    induction steps generalizing start with
    | nil =>
        cases reached
        exact held
    | cons step rest ih =>
        rw [List.foldlM_cons] at reached
        obtain ⟨next, down, onward⟩ := Option.bind_eq_some_iff.mp reached
        exact ih next (held.child next (start.child?_mem_children next _ down)) onward
  unfold Json.at? at found
  dsimp only at found
  split at found
  · cases found
    exact everywhere
  · exact walk _ document everywhere found

/-- Whether the members of every object of a document stand in the order of their keys. -/
def Sorted (document : Json) : Prop := document.Everywhere fun node => Table.InOrder node.members

/-- An object is in order if its members are, and each of their values. -/
@[simp] theorem sorted_object (members : List (String × Json)) :
    (object members).Sorted ↔ Table.InOrder members ∧ ∀ member ∈ members, member.2.Sorted := by
  rw [Sorted, everywhere_iff, children, List.forall_mem_map]
  rfl

@[simp] theorem sorted_array (items : List Json) :
    (array items).Sorted ↔ ∀ item ∈ items, item.Sorted := by
  rw [Sorted, everywhere_iff]
  exact and_iff_right .nil

@[simp] theorem sorted_string (text : String) : (string text).Sorted := .intro _ .nil nofun

/-- The value of a member is in order if the object is. -/
theorem Sorted.member {members : List (String × Json)} (sorted : (object members).Sorted)
    (key : String) (value : Json) (member : (key, value) ∈ members) : value.Sorted :=
  Everywhere.child sorted value (List.mem_map.mpr ⟨(key, value), member, rfl⟩)

/-- An item is in order if the array is. -/
theorem Sorted.item {node item : Json} (sorted : node.Sorted) (member : item ∈ node.items) :
    item.Sorted := by
  cases node with
  | array items => exact Everywhere.child sorted item member
  | _ => cases member

/-- The values of a node are in order if the node is. -/
theorem Sorted.value {node : Json} (sorted : node.Sorted) {member : String × Json}
    (inside : member ∈ node.members) : member.2.Sorted := by
  cases node with
  | object members => exact sorted.member member.1 member.2 inside
  | _ => cases inside

/-- A value that is found in a node is in order if the node is. -/
theorem Sorted.member? {node value : Json} (sorted : node.Sorted) {key : String}
    (found : node.member? key = some value) : value.Sorted := by
  cases node with
  | object members => exact sorted.member key value (Table.mem_of_lookup _ _ _ found)
  | _ => cases found

/-- The object under a key of a sorted document has its members in order. -/
theorem Sorted.table {node : Json} (sorted : node.Sorted) (key : String) :
    Table.InOrder ((node.member? key).elim [] members) := by
  cases found : node.member? key with
  | none => exact .nil
  | some value =>
      cases node with
      | object members => exact (sorted.member key value (Table.mem_of_lookup _ _ _ found)).here
      | _ => cases found

end Json

end ApiContract
