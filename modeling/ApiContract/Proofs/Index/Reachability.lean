import ApiContract.Registry
import ApiContract.Proofs.Index.Routing

/-
This file proves that every response with a schema can be reached by a call: the check of a response
finds a schema whenever the specification gives one for the call.
-/

namespace ApiContract

/-- The first place with a result is the one that a search ends at. -/
theorem findSome?_first {α β : Type} [DecidableEq α] {search : α → Option β} {places : List α}
    {value : β} (found : places.findSome? search = some value) :
    ∃ place ∈ places, search place = some value ∧ ∀ other ∈ places,
      (search other).isSome = true → places.idxOf place ≤ places.idxOf other := by
  obtain ⟨before, place, after, rfl, result, nothing⟩ := List.findSome?_eq_some_iff.mp found
  have new : place ∉ before := fun member => by rw [nothing place member] at result; cases result
  refine ⟨place, List.mem_append_right _ (.head _), result, ?_⟩
  intro other _ held
  have late : other ∉ before := fun member => by rw [nothing other member] at held; cases held
  rw [List.idxOf_append_of_notMem new, List.idxOf_append_of_notMem late, List.idxOf_cons_self]
  omega

/-- Searches that agree at each place end alike. -/
theorem findSome?_congr {α β : Type} {search search' : α → Option β} {places : List α}
    (same : ∀ place ∈ places, search place = search' place) :
    places.findSome? search = places.findSome? search' := by
  induction places with
  | nil => rfl
  | cons place rest ih =>
      obtain ⟨first, others⟩ := List.forall_mem_cons.mp same
      simp only [List.findSome?_cons, first, ih others]

namespace ModuleIndex

/-- The most specific route is one of the routes. -/
theorem mostSpecific_mem (routes : List ResponseRoute) (route : ResponseRoute)
    (found : mostSpecific routes = some route) : route ∈ routes := by
  induction routes with
  | nil => cases found
  | cons first rest ih =>
      rw [mostSpecific] at found
      split at found
      · cases found
        exact .head _
      · next other best =>
          split at found
          · exact .tail _ (ih (best.trans found))
          · cases found
            exact .head _

/-- Some route is the most specific, if there are any. -/
theorem mostSpecific_isSome (routes : List ResponseRoute) (present : routes ≠ []) :
    (mostSpecific routes).isSome = true := by
  cases routes with
  | nil => exact absurd rfl present
  | cons first rest =>
      rw [mostSpecific]
      split
      · rfl
      · split <;> rfl

/-- The matching routes are those of the method and the status whose template matches. -/
theorem mem_matchingRoutes (index : ModuleIndex) (method : Method) (endpoint status : String)
    (route : ResponseRoute) :
    route ∈ index.matchingRoutes method endpoint status ↔
      route ∈ index.routes ∧ route.method = method ∧ route.status = status ∧
        route.template.matchesEndpoint endpoint = true := by
  rw [matchingRoutes, List.mem_filter, Bool.and_eq_true, Bool.and_eq_true, beq_iff_eq, beq_iff_eq,
    and_assoc]

variable {allowed : ResponseKey → Prop} {index : ModuleIndex}

/-- The schema under the key of a response is that of its route. -/
theorem Routed.route_of_schema? (routed : Routed allowed index)
    (spaceless : ∀ key, allowed key → ' ' ∉ key.status.toList) (key : ResponseKey)
    (clean : ' ' ∉ key.status.toList) (other : Text.endsWith key.status "_request" = false)
    (present : (index.schema? key.text).isSome = true) :
    ∃ route ∈ index.routes, route.key = key := by
  rcases routed.known key.text present with ⟨route, member, same⟩ | ⟨operation, same⟩
  · exact ⟨route, member,
      ResponseKey.eq_of_text_eq _ _ (spaceless _ (routed.fits route member)) clean same⟩
  · exact absurd same (key.text_ne_requestKey operation other)

/-- A schema for a status belongs to a route that covers the call. -/
theorem Routed.route_of_schemaForStatus (routed : Routed allowed index)
    (spaceless : ∀ key, allowed key → ' ' ∉ key.status.toList) (method : Method)
    (endpoint status : String) (clean : ' ' ∉ status.toList)
    (other : Text.endsWith status "_request" = false) (text : String) (schema : Json)
    (found : index.schemaForStatus method endpoint status = some (text, schema)) :
    ∃ route ∈ index.matchingRoutes method endpoint status,
      route.key.text = text ∧ index.schema? text = some schema := by
  unfold schemaForStatus at found
  dsimp only at found
  split at found
  · next held stored =>
      cases found
      obtain ⟨route, member, same⟩ := routed.route_of_schema? spaceless ⟨method, endpoint, status⟩
        clean other (by rw [stored, Option.isSome_some])
      have parts := ResponseKey.mk.inj same
      refine ⟨route, ?_, congrArg ResponseKey.text same, stored⟩
      refine (mem_matchingRoutes index method endpoint status route).mpr
        ⟨member, parts.1, parts.2.2, ?_⟩
      rw [routed.parsed route member, parts.2.1]
      exact PathTemplate.matchesEndpoint_self endpoint
  · split at found
    · cases found
    · next route best =>
        obtain ⟨held, stored, same⟩ := Option.map_eq_some_iff.mp found
        cases same
        exact ⟨route, mostSpecific_mem _ route best, rfl, stored⟩

/-- A route that covers a call gives a schema for its status. -/
theorem Routed.isSome_schemaForStatus (routed : Routed allowed index) (method : Method)
    (endpoint status : String) (route : ResponseRoute)
    (covers : route ∈ index.matchingRoutes method endpoint status) :
    (index.schemaForStatus method endpoint status).isSome = true := by
  unfold schemaForStatus
  dsimp only
  split
  · rfl
  · obtain ⟨best, found⟩ := Option.isSome_iff_exists.mp
      (mostSpecific_isSome _ (List.ne_nil_of_mem covers))
    have member := mostSpecific_mem _ best found
    rw [found]
    dsimp only
    rw [Option.isSome_map]
    exact routed.stored best ((mem_matchingRoutes _ _ _ _ best).mp member).1

/-- Whether a route covers a call: it is a route of the method whose template matches the path, and
whose status is a candidate that comes no later than another. -/
structure Covers (index : ModuleIndex) (method : Method) (path : String) (status : Nat)
    (candidate : String) (route : ResponseRoute) : Prop where
  indexed : route ∈ index.routes
  sameMethod : route.method = method
  matched : route.template.matchesEndpoint path = true
  listed : route.status ∈ statusCandidates status
  specific : (statusCandidates status).idxOf route.status ≤
    (statusCandidates status).idxOf candidate

/-- The search for a schema ends at a route that covers the call, if there is one. -/
theorem Routed.responseSchema_of_covers (routed : Routed allowed index)
    (spaceless : ∀ key, allowed key → ' ' ∉ key.status.toList) (path : String) (status : Nat)
    (own : ResponseRoute) (member : own ∈ index.routes)
    (matched : own.template.matchesEndpoint path = true)
    (listed : own.status ∈ statusCandidates status) :
    ∃ route schema, index.Covers own.method path status own.status route ∧
      index.schema? route.key.text = some schema ∧
        index.responseSchema own.method path status = some (route.key.text, schema) := by
  have reachable := routed.isSome_schemaForStatus own.method path own.status own
    ((mem_matchingRoutes _ _ _ _ _).mpr ⟨member, rfl, rfl, matched⟩)
  obtain ⟨⟨text, schema⟩, found⟩ := Option.isSome_iff_exists.mp
    (List.findSome?_isSome_iff.mpr ⟨own.status, listed, reachable⟩)
  obtain ⟨first, listed', result, before⟩ := findSome?_first found
  obtain ⟨clean, other⟩ := clean_of_mem_statusCandidates status first listed'
  obtain ⟨route, matching, rfl, stored⟩ :=
    routed.route_of_schemaForStatus spaceless own.method path first clean other text schema result
  obtain ⟨inside, method, rfl, fits⟩ := (mem_matchingRoutes _ _ _ _ _).mp matching
  exact ⟨route, schema, ⟨inside, method, fits, listed', before own.status listed reachable⟩, stored,
    found⟩

end ModuleIndex

/-- What is checked is not skipped. -/
theorem Outcome.isSkipped_ofCheck (schema body : Json) (key headline : String) :
    (ofCheck schema body key headline).isSkipped = false := by
  unfold ofCheck
  split <;> rfl

namespace Registry

open ModuleIndex

/-- A response is checked with the schema that the index finds for it. -/
theorem checkResponse_of_responseSchema (registry : Registry) (module spelled endpoint : String)
    (status : Nat) (body : Json) (index : ModuleIndex) (method : Method) (key : String)
    (schema : Json) (loaded : registry.module? module = some index)
    (read : Method.ofString? spelled = some method)
    (found : index.responseSchema method (endpointPath endpoint registry.config.apiPrefix) status =
      some (key, schema)) :
    registry.checkResponse module spelled endpoint status body =
      .ofCheck schema body key "schema validation failed" := by
  simp only [checkResponse, loaded, read, found]

/-- A call for a response of a specification is never skipped: a route with its method, a matching
template and a status no less specific is found. -/
theorem checkResponse_reaches_indexed (files : FileSystem) (name : String) (specPath : Path)
    (spec : Json) (modelsDirectory : String)
    (spaceless : ∀ key, Declares spec key → ' ' ∉ key.status.toList)
    (registry : Registry) (module : String)
    (loaded : registry.module? module =
      some (ofSpecification files name specPath spec modelsDirectory))
    (plainPrefix : IsPlain registry.config.apiPrefix) (key : ResponseKey)
    (indexed : ((ofSpecification files name specPath spec modelsDirectory).schema?
      key.text).isSome = true)
    (absolute : Text.startsWith key.path "/" = true) (plain : IsPlain key.path) (status : Nat)
    (candidate : key.status ∈ statusCandidates status) (values : Nat → String)
    (present : ∀ index, (values index).isEmpty = false)
    (clean : ∀ index, '/' ∉ (values index).toList)
    (plainValues : ∀ index, IsPlain (values index)) (spelled : String)
    (spelling : Text.sameIgnoringCase key.method.name spelled = true) (tail : String)
    (ends : IsTail tail) (body : Json) :
    let index := ofSpecification files name specPath spec modelsDirectory
    let path := PathTemplate.instantiate key.path values
    let endpoint := Text.trimMarkEnd '/' registry.config.apiPrefix ++ path ++ tail
    let outcome := registry.checkResponse module spelled endpoint status body
    outcome.isSkipped = false ∧
      ∃ route schema, index.Covers key.method path status key.status route ∧
        index.schema? route.key.text = some schema ∧
          outcome = .ofCheck schema body route.key.text "schema validation failed" := by
  intro index path endpoint outcome
  have routed : Routed (Declares spec) index :=
    routed_ofSpecification files name specPath spec modelsDirectory
  obtain ⟨noSpace, noRequest⟩ := clean_of_mem_statusCandidates status key.status candidate
  obtain ⟨own, member, rfl⟩ := routed.route_of_schema? spaceless key noSpace noRequest indexed
  have matched : own.template.matchesEndpoint path = true := by
    rw [routed.parsed own member]
    exact PathTemplate.matchesEndpoint_instantiate own.template.text values present clean
  obtain ⟨route, schema, covers, stored, found⟩ :=
    routed.responseSchema_of_covers spaceless path status own member matched candidate
  have reduced : endpointPath endpoint registry.config.apiPrefix = path :=
    endpointPath_prefixed _ path tail plainPrefix
      (PathTemplate.isPlain_instantiate own.template.text values clean plain plainValues)
      (PathTemplate.startsWith_instantiate own.template.text values absolute) ends
  have read := Method.ofString?_of_sameIgnoringCase own.method spelled spelling
  have answer : outcome = .ofCheck schema body route.key.text "schema validation failed" :=
    registry.checkResponse_of_responseSchema module spelled endpoint status body index own.method
      route.key.text schema loaded read (by rw [reduced, found])
  refine ⟨?_, route, schema, covers, stored, answer⟩
  rw [answer]
  exact Outcome.isSkipped_ofCheck schema body _ _

end Registry

namespace UserModule

open ModuleIndex Registry

/-- A response whose body is an object. -/
def response : Json :=
  .object [("content", .object [("application/json", .object [("schema", .object
    [("type", .string "object")])])])]

/-- An operation on a template, with a response for one status, one for a range and one for all. -/
def spec : Json :=
  .object [("paths", .object [("/users/\x7bid\x7d/", .object [("get", .object [("responses",
    .object [("200", response), ("4XX", response), ("default", response)])])])])]

def files : FileSystem := ⟨[], []⟩

def index : ModuleIndex := ofSpecification files "user" ⟨"/in-memory/user.yaml"⟩ spec "models"

def registry : Registry := (Registry.empty .default).insert "user" index

/-- A call below the prefix is checked, though only a range and a template are there for it. -/
theorem checkResponse_reaches_default :
    (∀ key, Declares spec key → ' ' ∉ key.status.toList) ∧
      (index.schema? "GET /users/\x7bid\x7d/ default").isSome = true ∧
        (registry.checkResponse "user" "gEt" "/api/v1/users/42/?page=1" 404 .null).isSkipped =
          false := by
  have spaceless : ∀ key, Declares spec key → ' ' ∉ key.status.toList := by
    have clean : ∀ operation ∈ operations spec, ∀ response ∈ operation.responses,
        ' ' ∉ response.1.toList := by
      decide
    rintro _ ⟨operation, member, response, present, rfl⟩
    exact clean operation member response present
  have indexed : (index.schema? "GET /users/\x7bid\x7d/ default").isSome = true := by rfl
  have query : IsTail "?page=1" := by
    rintro first ⟨⟩
    exact .inl rfl
  refine ⟨spaceless, indexed, ?_⟩
  have reached := (checkResponse_reaches_indexed files "user" ⟨"/in-memory/user.yaml"⟩ spec "models"
    spaceless registry "user" rfl ⟨by decide, by decide⟩
    ⟨.get, "/users/\x7bid\x7d/", "default"⟩ indexed (by decide) ⟨by decide, by decide⟩ 404 (by decide)
    (fun _ => "42") (fun _ => by decide) (fun _ => by decide) (fun _ => ⟨by decide, by decide⟩) "gEt"
    (by decide) "?page=1" query .null).1
  exact reached

end UserModule

end ApiContract
