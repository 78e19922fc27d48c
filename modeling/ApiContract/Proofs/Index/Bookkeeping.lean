import ApiContract.Proofs.Index.Lookup

/-
This file proves that the schemas and the routes of an index never drift apart, whatever is inserted in
whatever order: there is one route for each distinct response, its schema is the last one that was
inserted for it, and requests and responses leave one another alone.
-/

namespace ApiContract

namespace Insertion

def identifier? : Insertion → Option String
  | response _ _ => none
  | request operation _ => some operation

/-- The identifiers of the operations whose requests are among some insertions. -/
def identifiers (insertions : List Insertion) : List String := insertions.filterMap identifier?

/-- The keys of some insertions are those of the responses and those of the requests. -/
theorem exists_key_iff (insertions : List Insertion) (text : String) :
    (∃ insertion ∈ insertions, insertion.key = text) ↔
      (∃ key ∈ responseKeys insertions, key.text = text) ∨
        ∃ operation ∈ identifiers insertions, requestKey operation = text := by
  simp only [responseKeys, identifiers, List.mem_filterMap]
  constructor
  · rintro ⟨insertion, member, rfl⟩
    cases insertion with
    | response key schema => exact .inl ⟨key, ⟨_, member, rfl⟩, rfl⟩
    | request operation schema => exact .inr ⟨operation, ⟨_, member, rfl⟩, rfl⟩
  · rintro (⟨key, ⟨insertion, member, given⟩, rfl⟩ | ⟨operation, ⟨insertion, member, given⟩, rfl⟩)
    all_goals
      cases insertion <;> cases given
      exact ⟨_, member, rfl⟩

end Insertion

/-- The key of a request tells its operation. -/
theorem requestKey_injective : Function.Injective requestKey := by
  intro first second same
  have characters := congrArg String.toList same
  simp only [requestKey, String.toList_append] at characters
  exact String.toList_inj.mp (List.append_cancel_right characters)

namespace ModuleIndex

open Insertion

/-- A request leaves the schemas of the responses as they are. -/
theorem schema?_insertRequest_text (index : ModuleIndex) (operation : String) (schema : Json)
    (key : ResponseKey) (clear : ClearStatus key.status) :
    (index.insertRequest operation schema).schema? key.text = index.schema? key.text := by
  have apart := key.text_ne_requestKey operation clear.2
  simp only [schema?, insertRequest, Table.lookup_insert, apart, if_false]

/-- A response leaves the schemas of the requests as they are. -/
theorem schema?_insertResponse_requestKey (index : ModuleIndex) (key : ResponseKey) (schema : Json)
    (operation : String) (clear : ClearStatus key.status) :
    (index.insertResponse key schema).schema? (requestKey operation) =
      index.schema? (requestKey operation) := by
  have apart := (key.text_ne_requestKey operation clear.2).symm
  simp only [schema?, insertResponse, Table.lookup_insert, apart, if_false]

/-- A response that is inserted again has the new schema, and no new route. -/
theorem insertResponse_again (index : ModuleIndex) (key : ResponseKey) (schema : Json)
    (known : (index.schema? key.text).isSome = true) :
    (index.insertResponse key schema).routes = index.routes ∧
      (index.insertResponse key schema).schema? key.text = some schema := by
  constructor
  · simp only [insertResponse, known, if_true]
  · simp only [schema?, insertResponse, Table.lookup_insert, if_true]

/-- The keys of an index are those that have a schema. -/
theorem mem_keys_iff (index : ModuleIndex) (text : String) :
    text ∈ index.keys ↔ (index.schema? text).isSome = true := by
  simp only [keys, schema?, List.lookup_isSome_iff, List.mem_map, beq_iff_eq, @eq_comm _ text]

section

variable (name : String) (specPath : Path) (insertions : List Insertion)

/-- An index lists each key once. -/
theorem nodup_keys_insertAll : ((empty name specPath).insertAll insertions).keys.Nodup := by
  have ordered := Json.sortMembers_ordered
    (insertions.map fun insertion => (insertion.key, insertion.schema))
  rw [← schemas_insertAll name specPath insertions] at ordered
  exact List.pairwise_map.mpr (ordered.imp fun less => less.ne)

/-- The keys of an index are those of its insertions. -/
theorem mem_keys_insertAll (text : String) :
    text ∈ ((empty name specPath).insertAll insertions).keys ↔
      ∃ insertion ∈ insertions, insertion.key = text := by
  rw [mem_keys_iff, schema?_insertAll, Option.isSome_map, List.getLast?_isSome]
  simp [List.filter_eq_nil_iff]

variable (clear : ∀ key ∈ responseKeys insertions, ClearStatus key.status)

include clear

/-- The keys of an index are those of the distinct responses and those of the distinct operations. -/
theorem keys_insertAll_perm :
    ((empty name specPath).insertAll insertions).keys.Perm
      ((responseKeys insertions).eraseDups.map ResponseKey.text ++
        (identifiers insertions).eraseDups.map requestKey) := by
  have responses : ((responseKeys insertions).eraseDups.map ResponseKey.text).Nodup := by
    apply List.Nodup.map_on _ (nodup_eraseDups _)
    intro first inside second inside' same
    exact ResponseKey.eq_of_text_eq first second (clear first (List.mem_eraseDups.mp inside)).1
      (clear second (List.mem_eraseDups.mp inside')).1 same
  have requests : ((identifiers insertions).eraseDups.map requestKey).Nodup :=
    (nodup_eraseDups _).map requestKey_injective
  have apart : ∀ text ∈ (responseKeys insertions).eraseDups.map ResponseKey.text,
      ∀ text' ∈ (identifiers insertions).eraseDups.map requestKey, text ≠ text' := by
    intro text inside text' inside'
    obtain ⟨key, member, rfl⟩ := List.mem_map.mp inside
    obtain ⟨operation, -, rfl⟩ := List.mem_map.mp inside'
    exact key.text_ne_requestKey operation (clear key (List.mem_eraseDups.mp member)).2
  have distinct := List.nodup_append.mpr ⟨responses, requests, apart⟩
  apply (List.perm_ext_iff_of_nodup (nodup_keys_insertAll name specPath insertions) distinct).mpr
  intro text
  rw [mem_keys_insertAll, exists_key_iff]
  simp only [List.mem_append, List.mem_map, List.mem_eraseDups]

/-- An index has as many schemas as response keys and requests were inserted. -/
theorem length_schemas_insertAll :
    ((empty name specPath).insertAll insertions).schemas.length =
      (responseKeys insertions).eraseDups.length + (identifiers insertions).eraseDups.length := by
  have lengths := (keys_insertAll_perm name specPath insertions clear).length_eq
  simpa [keys] using lengths

/-- The schema of a route is the last one that was inserted for its key. -/
theorem schema?_of_mem_routes {route : ResponseRoute}
    (member : route ∈ ((empty name specPath).insertAll insertions).routes) :
    ∃ schema, lastSchema? insertions route.key = some schema ∧
      ((empty name specPath).insertAll insertions).schema? route.key.text = some schema := by
  rw [routes_insertAll name specPath insertions clear] at member
  obtain ⟨key, inside, rfl⟩ := List.mem_map.mp member
  have inserted := List.mem_eraseDups.mp inside
  obtain ⟨schema, last⟩ := Option.isSome_iff_exists.mp ((isSome_lastSchema?_iff _ _).mpr inserted)
  have stored := schema?_insertAll_text name specPath insertions clear key (clear key inserted)
  exact ⟨schema, last, stored.trans last⟩

end

/-- An index has one route for each distinct response, in the order in which these came first, each
with the last schema inserted for it. -/
theorem routes_and_schemas_insertAll (name : String) (specPath : Path) (insertions : List Insertion)
    (clear : ∀ key ∈ responseKeys insertions, ClearStatus key.status) :
    let index := (empty name specPath).insertAll insertions
    index.routes = (responseKeys insertions).eraseDups.map routeOf ∧
      (∀ route ∈ index.routes, ∃ schema, lastSchema? insertions route.key = some schema ∧
        index.schema? route.key.text = some schema) ∧
      -- A response that is inserted again gets the new schema and no new route.
      (∀ key ∈ responseKeys insertions, ∀ schema,
        (index.insertResponse key schema).routes = index.routes ∧
          (index.insertResponse key schema).schema? key.text = some schema) ∧
      -- Requests and responses leave one another's schemas as they are.
      (∀ operation schema, (index.insertRequest operation schema).routes = index.routes ∧
        ∀ key : ResponseKey, ClearStatus key.status →
          (index.insertRequest operation schema).schema? key.text = index.schema? key.text) ∧
      (∀ (key : ResponseKey) schema, ClearStatus key.status → ∀ operation,
        (index.insertResponse key schema).schema? (requestKey operation) =
          index.schema? (requestKey operation)) ∧
      index.schemas.length =
        (responseKeys insertions).eraseDups.length + (identifiers insertions).eraseDups.length ∧
      -- So the search among the templates ends at no route without a schema.
      ∀ method endpoint status route,
        mostSpecific (index.matchingRoutes method endpoint status) = some route →
          (index.schema? route.key.text).isSome = true := by
  intro index
  have held {route : ResponseRoute} (member : route ∈ index.routes) :=
    schema?_of_mem_routes name specPath insertions clear member
  refine ⟨routes_insertAll name specPath insertions clear, fun _ => held, ?_, ?_, ?_,
    length_schemas_insertAll name specPath insertions clear, ?_⟩
  · intro key member schema
    have known := (isSome_schema?_insertAll name specPath insertions clear key (clear key member)).mpr
      member
    exact index.insertResponse_again key schema known
  · intro operation schema
    exact ⟨rfl, fun key own => index.schema?_insertRequest_text operation schema key own⟩
  · intro key schema own operation
    exact index.schema?_insertResponse_requestKey key schema operation own
  · intro method endpoint status route found
    have matching := mostSpecific_mem _ route found
    obtain ⟨listed, -⟩ := (mem_matchingRoutes index method endpoint status route).mp matching
    obtain ⟨schema, -, stored⟩ := held listed
    rw [stored, Option.isSome_some]

end ModuleIndex

namespace AccountModule

open Insertion ModuleIndex

/-- Of five responses, one is inserted twice; the request has a schema and no route. -/
theorem index_has_one_route_for_each_response :
    (∀ key ∈ responseKeys insertions, ClearStatus key.status) ∧
      index.routes.length = 4 ∧
      index.schemas.length = 5 ∧
      (⟨.get, "/users/me", "default"⟩ : ResponseKey) ∈ responseKeys insertions ∧
      (index.insertResponse ⟨.get, "/users/me", "default"⟩ (.string "again")).routes = index.routes ∧
      ClearStatus "200" ∧
      (index.insertRequest "GET /users/me" (.string "other")).schema? "GET /users/\x7bid\x7d 200" =
        some (.string "newer user") ∧
      mostSpecific (index.matchingRoutes .get "/users/you" "200") =
        some (routeOf ⟨.get, "/users/\x7bid\x7d", "200"⟩) ∧
      (index.schema? "GET /users/\x7bid\x7d 200").isSome = true := by
  have clear : ∀ key ∈ responseKeys insertions, ClearStatus key.status := by
    unfold ClearStatus
    decide
  have plain : ClearStatus "200" := by
    unfold ClearStatus
    decide
  have member : (⟨.get, "/users/me", "default"⟩ : ResponseKey) ∈ responseKeys insertions := by decide
  have stored : index.schema? "GET /users/\x7bid\x7d 200" = some (.string "newer user") := by rfl
  obtain ⟨routes, -, again, requests, -, length, template⟩ :=
    routes_and_schemas_insertAll "account" ⟨"/account.yaml"⟩ insertions clear
  have found : mostSpecific (index.matchingRoutes .get "/users/you" "200") =
      some (routeOf ⟨.get, "/users/\x7bid\x7d", "200"⟩) := by
    rfl
  refine ⟨clear, ?_, length, member, (again _ member _).1, plain, ?_, found, template _ _ _ _ found⟩
  · rw [index, routes]
    decide
  · exact ((requests _ _).2 ⟨.get, "/users/\x7bid\x7d", "200"⟩ plain).trans stored

end AccountModule

end ApiContract
