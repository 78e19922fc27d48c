import ApiContract.Proofs.Index.Routing
import ApiContract.Proofs.Json.Forest
import ApiContract.Proofs.Resolver.Scope

/-
This file lists the bodies that a specification declares, in the order in which an index meets them,
and says what it takes to be one of them.
-/

namespace ApiContract

namespace Method

/-- A member of a path item names a method in any case of its letters, and no two methods. -/
theorem ofString?_eq_some_iff (name : String) (method : Method) :
    ofString? name = some method ↔ Text.sameIgnoringCase method.name name = true := by
  constructor
  · intro found
    unfold ofString? at found
    simpa using List.find?_some found
  · exact ofString?_of_sameIgnoringCase method name

end Method

namespace ModuleIndex

/-- The request or a response of an operation. A request has no status. -/
structure Declaration where
  path : String
  name : String
  method : Method
  operation : Json
  status : Option String
  body : Json

namespace Declaration

/-- The identifier of the operation: the given one, or else one made of the name and the path. -/
def identifier (declaration : Declaration) : String :=
  ((declaration.operation.member? "operationId").bind Json.string?).getD
    (declaration.name ++ "_" ++ declaration.path)

/-- What a response is found by. -/
def responseKey? (declaration : Declaration) : Option ResponseKey :=
  declaration.status.map fun status => ⟨declaration.method, declaration.path, status⟩

/-- What the schema of a body is stored under. -/
def key (declaration : Declaration) : String :=
  match declaration.responseKey? with
  | none => requestKey declaration.identifier
  | some key => key.text

/-- Whether a declaration comes earlier in the order of paths, then of the members of a path, then of
statuses. The request of an operation comes before its responses. -/
def Before (first second : Declaration) : Prop :=
  first.path < second.path ∨ first.path = second.path ∧
    (first.name < second.name ∨ first.name = second.name ∧ first.status < second.status)

end Declaration

/-- Whether a specification declares a body: in an operation below a method of a path, as its request
or as the response for a status. -/
structure Declared (spec : Json) (declaration : Declaration) : Prop where
  placed : ∃ paths members, spec.member? "paths" = some (.object paths) ∧
    (declaration.path, Json.object members) ∈ paths ∧
      (declaration.name, declaration.operation) ∈ members
  named : Text.sameIgnoringCase declaration.method.name declaration.name = true
  held : match declaration.status with
    | none => declaration.operation.member? "requestBody" = some declaration.body
    | some status => ∃ responses, declaration.operation.member? "responses" =
        some (.object responses) ∧ (status, declaration.body) ∈ responses

/-- The bodies of an operation, the request first. -/
def bodies (path name : String) (method : Method) (operation : Json) : List Declaration :=
  (operation.member? "requestBody").toList.map (fun body =>
      ⟨path, name, method, operation, none, body⟩) ++
    ((operation.member? "responses").elim [] Json.members).map fun (status, body) =>
      ⟨path, name, method, operation, some status, body⟩

/-- The bodies of a member of a path item. A member that names no method has none. -/
def memberBodies (path name : String) (content : Json) : List Declaration :=
  (Method.ofString? name).elim [] fun method => bodies path name method content

/-- The bodies that a specification declares, in the order of its walk. -/
def declarations (spec : Json) : List Declaration :=
  ((spec.member? "paths").elim [] Json.members).flatMap fun (path, item) =>
    item.members.flatMap fun (name, content) => memberBodies path name content

/-- The members of a node that may be absent are those of an object. -/
theorem mem_elim_members (found : Option Json) (member : String × Json) :
    member ∈ found.elim [] Json.members ↔
      ∃ members, found = some (.object members) ∧ member ∈ members := by
  rcases found with _ | node
  · simp
  · cases node <;> simp [Json.members]

/-- The members of a node are those of an object. -/
theorem mem_members (node : Json) (member : String × Json) :
    member ∈ node.members ↔ ∃ members, node = .object members ∧ member ∈ members := by
  cases node <;> simp [Json.members]

/-- The bodies of an operation are declared under its path and its method. -/
theorem mem_memberBodies (path name : String) (content : Json) (declaration : Declaration) :
    declaration ∈ memberBodies path name content ↔
      declaration.path = path ∧ declaration.name = name ∧ declaration.operation = content ∧
        Method.ofString? name = some declaration.method ∧
          match declaration.status with
          | none => content.member? "requestBody" = some declaration.body
          | some status => ∃ responses, content.member? "responses" = some (.object responses) ∧
              (status, declaration.body) ∈ responses := by
  obtain ⟨ownPath, ownName, method, operation, status, body⟩ := declaration
  unfold memberBodies
  cases Method.ofString? name with
  | none => simp
  | some given =>
      simp only [Option.elim_some, bodies, List.mem_append, List.mem_map, Option.mem_toList,
        Prod.exists, mem_elim_members, Declaration.mk.injEq, Option.some.injEq]
      cases status with
      | none => aesop
      | some status => aesop

/-- The declarations are exactly what the specification declares. -/
theorem mem_declarations_iff (spec : Json) (declaration : Declaration) :
    declaration ∈ declarations spec ↔ Declared spec declaration := by
  simp only [declarations, List.mem_flatMap, Prod.exists, mem_elim_members, mem_members,
    mem_memberBodies]
  constructor
  · rintro ⟨path, item, ⟨paths, located, inside⟩, name, content, ⟨members, rfl, member⟩, rfl, rfl,
      rfl, method, held⟩
    exact ⟨⟨paths, members, located, inside, member⟩,
      (Method.ofString?_eq_some_iff _ _).mp method, held⟩
  · rintro ⟨⟨paths, members, located, inside, member⟩, named, held⟩
    exact ⟨_, _, ⟨paths, located, inside⟩, _, _, ⟨members, rfl, member⟩, rfl, rfl, rfl,
      (Method.ofString?_eq_some_iff _ _).mpr named, held⟩

/-- The references of a declared body are references of the specification. -/
theorem Declared.references_subset {spec : Json} {declaration : Declaration}
    (declared : Declared spec declaration) : declaration.body.references ⊆ spec.references := by
  obtain ⟨⟨paths, members, located, inside, member⟩, -, held⟩ := declared
  have operation : declaration.operation.references ⊆ spec.references :=
    List.Subset.trans (Json.member_references_subset members _ _ member)
      (List.Subset.trans (Json.member_references_subset paths _ _ inside)
        (Json.member?_references_subset spec _ _ located))
  refine List.Subset.trans ?_ operation
  split at held
  · exact Json.member?_references_subset _ _ _ held
  · obtain ⟨responses, found, response⟩ := held
    exact List.Subset.trans (Json.member_references_subset responses _ _ response)
      (Json.member?_references_subset _ _ _ found)

/-- The bodies of an operation are declared in the order of their keys. -/
theorem bodies_ordered (path name : String) (method : Method) (operation : Json)
    (sorted : operation.Sorted) :
    (bodies path name method operation).Pairwise Declaration.Before := by
  refine List.pairwise_append.mpr ⟨?_, ?_, ?_⟩
  · cases operation.member? "requestBody" with
    | none => exact .nil
    | some body => exact List.pairwise_singleton _ _
  · refine List.pairwise_map.mpr ((sorted.table "responses").imp ?_)
    intro first second before
    exact .inr ⟨rfl, .inr ⟨rfl, before⟩⟩
  · intro first request second response
    obtain ⟨body, -, rfl⟩ := List.mem_map.mp request
    obtain ⟨member, -, rfl⟩ := List.mem_map.mp response
    exact .inr ⟨rfl, .inr ⟨rfl, trivial⟩⟩

/-- The bodies below a member of a path are declared in the order of their keys. -/
theorem memberBodies_ordered (path name : String) (content : Json) (sorted : content.Sorted) :
    (memberBodies path name content).Pairwise Declaration.Before := by
  unfold memberBodies
  cases Method.ofString? name with
  | none => exact .nil
  | some method => exact bodies_ordered path name method content sorted

/-- The declarations of a document in key order stand in order, each once. -/
theorem declarations_ordered (spec : Json) (sorted : spec.Sorted) :
    (declarations spec).Pairwise Declaration.Before := by
  have items (path : String) (item : Json)
      (member : (path, item) ∈ (spec.member? "paths").elim [] Json.members) : item.Sorted := by
    obtain ⟨paths, located, inside⟩ := (mem_elim_members _ _).mp member
    cases spec with
    | object members =>
        exact (sorted.member _ _ (Table.mem_of_lookup _ _ _ located)).member path item inside
    | _ => cases located
  refine List.pairwise_flatMap.mpr ⟨?_, ?_⟩
  · rintro ⟨path, item⟩ member
    have sortedItem := items path item member
    refine List.pairwise_flatMap.mpr ⟨?_, ?_⟩
    · rintro ⟨name, content⟩ inside
      obtain ⟨members, rfl, inside⟩ := (mem_members _ _).mp inside
      exact memberBodies_ordered path name content (sortedItem.member name content inside)
    · refine sortedItem.here.imp ?_
      rintro ⟨name, content⟩ ⟨name', content'⟩ before first held second held'
      obtain ⟨path, rfl, -⟩ := (mem_memberBodies _ _ _ _).mp held
      obtain ⟨path', rfl, -⟩ := (mem_memberBodies _ _ _ _).mp held'
      exact .inr ⟨path.trans path'.symm, .inl before⟩
  · refine (sorted.table "paths").imp ?_
    rintro ⟨path, item⟩ ⟨path', item'⟩ before first held second held'
    obtain ⟨⟨name, content⟩, -, inside⟩ := List.mem_flatMap.mp held
    obtain ⟨⟨name', content'⟩, -, inside'⟩ := List.mem_flatMap.mp held'
    obtain ⟨rfl, -⟩ := (mem_memberBodies _ _ _ _).mp inside
    obtain ⟨rfl, -⟩ := (mem_memberBodies _ _ _ _).mp inside'
    exact .inl before

end ModuleIndex

end ApiContract
