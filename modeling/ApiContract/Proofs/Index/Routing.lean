import ApiContract.ModuleIndex
import ApiContract.Proofs.Json.Members
import ApiContract.Proofs.Route.Endpoint

/-
This file proves that the routes of an index and its schemas belong together, and that every index of
a specification keeps them so.
-/

namespace ApiContract

namespace ModuleIndex

/-- Whether each route of an index has a schema and an allowed key, and each schema is that of a
route or of a request. -/
structure Routed (allowed : ResponseKey → Prop) (index : ModuleIndex) : Prop where
  stored : ∀ route ∈ index.routes, (index.schema? route.key.text).isSome = true
  parsed : ∀ route ∈ index.routes, route.template = .ofString route.template.text
  fits : ∀ route ∈ index.routes, allowed route.key
  known : ∀ text, (index.schema? text).isSome = true →
    (∃ route ∈ index.routes, route.key.text = text) ∨ ∃ operation, text = requestKey operation

variable {allowed : ResponseKey → Prop} {index : ModuleIndex}

/-- An empty index is routed. -/
theorem routed_empty (name : String) (specPath : Path) : Routed allowed (empty name specPath) :=
  ⟨nofun, nofun, nofun, nofun⟩

/-- An insertion gives a schema to its own key, and takes none away. -/
theorem isSome_schema?_insert (index : ModuleIndex) (key text : String) (schema : Json) :
    ((Table.insert key schema index.schemas).lookup text).isSome = true ↔
      text = key ∨ (index.schema? text).isSome = true := by
  rw [Table.lookup_insert, schema?]
  by_cases same : text = key <;> simp [same]

/-- Storing the schema of a response keeps routes and schemas together. -/
theorem Routed.insertResponse (routed : Routed allowed index) (key : ResponseKey) (schema : Json)
    (fits : allowed key) : Routed allowed (index.insertResponse key schema) := by
  have schemas (text : String) :
      ((index.insertResponse key schema).schema? text).isSome = true ↔
        text = key.text ∨ (index.schema? text).isSome = true :=
    isSome_schema?_insert index key.text text schema
  by_cases old : (index.schema? key.text).isSome = true
  · have routes : (index.insertResponse key schema).routes = index.routes := if_pos old
    refine ⟨?_, ?_, ?_, ?_⟩
    · rw [routes]
      exact fun route member => (schemas _).mpr (.inr (routed.stored route member))
    · rw [routes]
      exact routed.parsed
    · rw [routes]
      exact routed.fits
    · rw [routes]
      intro text present
      rcases (schemas text).mp present with rfl | held
      · exact routed.known key.text old
      · exact routed.known text held
  · have routes : (index.insertResponse key schema).routes =
        index.routes ++ [⟨key.method, .ofString key.path, key.status⟩] := if_neg old
    refine ⟨?_, ?_, ?_, ?_⟩
    · rw [routes, List.forall_mem_append, List.forall_mem_singleton]
      exact ⟨fun route member => (schemas _).mpr (.inr (routed.stored route member)),
        (schemas _).mpr (.inl rfl)⟩
    · rw [routes, List.forall_mem_append, List.forall_mem_singleton]
      exact ⟨routed.parsed, rfl⟩
    · rw [routes, List.forall_mem_append, List.forall_mem_singleton]
      exact ⟨routed.fits, fits⟩
    · rw [routes]
      intro text present
      rcases (schemas text).mp present with rfl | held
      · exact .inl ⟨_, List.mem_append_right _ (.head _), rfl⟩
      · rcases routed.known text held with ⟨route, member, same⟩ | request
        · exact .inl ⟨route, List.mem_append_left _ member, same⟩
        · exact .inr request

/-- Storing the schema of a request keeps routes and schemas together. -/
theorem Routed.insertRequest (routed : Routed allowed index) (operation : String) (schema : Json) :
    Routed allowed (index.insertRequest operation schema) := by
  have schemas (text : String) :
      ((index.insertRequest operation schema).schema? text).isSome = true ↔
        text = requestKey operation ∨ (index.schema? text).isSome = true :=
    isSome_schema?_insert index (requestKey operation) text schema
  refine ⟨?_, routed.parsed, routed.fits, ?_⟩
  · exact fun route member => (schemas _).mpr (.inr (routed.stored route member))
  · intro text present
    rcases (schemas text).mp present with same | held
    · exact .inr ⟨operation, same⟩
    · exact routed.known text held

/-- A request keeps an index routed. -/
theorem Routed.addRequest {files : FileSystem} {bound : Nat} {operation : Operation}
    {state : ModuleIndex × Resolver} (routed : Routed allowed state.1) :
    Routed allowed (ModuleIndex.addRequest files bound operation state).1 := by
  unfold ModuleIndex.addRequest
  split
  · exact routed
  · split
    · exact routed
    · exact routed.insertRequest _ _

/-- A response with an allowed key keeps an index routed. -/
theorem Routed.addResponse {files : FileSystem} {bound : Nat} {operation : Operation}
    {state : ModuleIndex × Resolver} {response : String × Json} (routed : Routed allowed state.1)
    (fits : allowed ⟨operation.method, operation.path, response.1⟩) :
    Routed allowed (ModuleIndex.addResponse files bound operation state response).1 := by
  unfold ModuleIndex.addResponse
  split
  · exact routed
  · exact routed.insertResponse _ _ fits

/-- Responses with allowed keys keep an index routed. -/
theorem Routed.addResponses {files : FileSystem} {bound : Nat} {operation : Operation}
    {state : ModuleIndex × Resolver} {responses : List (String × Json)}
    (routed : Routed allowed state.1)
    (fits : ∀ response ∈ responses, allowed ⟨operation.method, operation.path, response.1⟩) :
    Routed allowed (responses.foldl (ModuleIndex.addResponse files bound operation) state).1 := by
  induction responses generalizing state with
  | nil => exact routed
  | cons response rest ih =>
      obtain ⟨first, others⟩ := List.forall_mem_cons.mp fits
      exact ih (routed.addResponse first) others

/-- Operations whose responses have allowed keys keep an index routed. -/
theorem Routed.addOperations {files : FileSystem} {bound : Nat} {operations : List Operation}
    {state : ModuleIndex × Resolver} (routed : Routed allowed state.1)
    (fits : ∀ operation ∈ operations, ∀ response ∈ operation.responses,
      allowed ⟨operation.method, operation.path, response.1⟩) :
    Routed allowed (operations.foldl (ModuleIndex.addOperation files bound) state).1 := by
  induction operations generalizing state with
  | nil => exact routed
  | cons operation rest ih =>
      obtain ⟨first, others⟩ := List.forall_mem_cons.mp fits
      exact ih (routed.addRequest.addResponses first) others

/-- The count of references that are left does not matter. -/
theorem Routed.withUnresolved (routed : Routed allowed index) (count : Nat) :
    Routed allowed { index with unresolved := count } :=
  ⟨routed.stored, routed.parsed, routed.fits, routed.known⟩

/-- The responses that a specification declares. -/
def Declares (spec : Json) (key : ResponseKey) : Prop :=
  ∃ operation ∈ operations spec, ∃ response ∈ operation.responses,
    key = ⟨operation.method, operation.path, response.1⟩

/-- The index of a specification has routes and schemas that belong together, and routes of declared
responses only. -/
theorem routed_ofSpecification (files : FileSystem) (name : String) (specPath : Path) (spec : Json)
    (modelsDirectory : String) :
    Routed (Declares spec) (ofSpecification files name specPath spec modelsDirectory) := by
  have start : Routed (Declares spec) (empty name ((files.canonical? specPath).getD specPath)) :=
    routed_empty name _
  have fits : ∀ operation ∈ operations spec, ∀ response ∈ operation.responses,
      Declares spec ⟨operation.method, operation.path, response.1⟩ :=
    fun operation member response present => ⟨operation, member, response, present, rfl⟩
  exact (start.addOperations fits).withUnresolved _

end ModuleIndex

end ApiContract
