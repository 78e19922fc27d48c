import ApiContract.Proofs.Index.Insertion
import ApiContract.Proofs.Index.Reachability

/-
This file proves that the schema of a response is looked up under the best key: the most specific
status comes first, then the path of the endpoint itself, then the template with the fewest parameters,
and of several such the one that was inserted first.
-/

namespace ApiContract

namespace Insertion

/-- Whether a response of a method was inserted under a key whose path covers an endpoint. -/
structure Serves (insertions : List Insertion) (method : Method) (endpoint : String)
    (key : ResponseKey) : Prop where
  inserted : key ∈ responseKeys insertions
  sameMethod : key.method = method
  matched : (PathTemplate.ofString key.path).matchesEndpoint endpoint = true

/-- Whether a key is the best of its status: that of the endpoint itself, or else the first one with
the fewest parameters. -/
structure IsBestPath (insertions : List Insertion) (method : Method) (endpoint : String)
    (key : ResponseKey) : Prop extends Serves insertions method endpoint key where
  verbatim : ⟨method, endpoint, key.status⟩ ∈ responseKeys insertions → key.path = endpoint
  fewest : ⟨method, endpoint, key.status⟩ ∉ responseKeys insertions →
    ∀ other, Serves insertions method endpoint other → other.status = key.status →
      (PathTemplate.ofString key.path).parameterCount <
          (PathTemplate.ofString other.path).parameterCount ∨
        (PathTemplate.ofString key.path).parameterCount =
            (PathTemplate.ofString other.path).parameterCount ∧
          (responseKeys insertions).idxOf key ≤ (responseKeys insertions).idxOf other

/-- Whether a key is the best for a call: its status is the first candidate that a response was
inserted for. -/
structure IsBest (insertions : List Insertion) (method : Method) (endpoint : String) (status : Nat)
    (key : ResponseKey) : Prop extends IsBestPath insertions method endpoint key where
  listed : key.status ∈ statusCandidates status
  first : ∀ other, Serves insertions method endpoint other → other.status ∈ statusCandidates status →
    (statusCandidates status).idxOf key.status ≤ (statusCandidates status).idxOf other.status

variable {insertions : List Insertion} {method : Method} {endpoint : String} {status : Nat}
  {key other : ResponseKey}

/-- An inserted key serves its own path. -/
theorem serves_self (inserted : key ∈ responseKeys insertions) :
    Serves insertions key.method key.path key :=
  ⟨inserted, rfl, PathTemplate.matchesEndpoint_self key.path⟩

/-- No two keys of one status are both the best for an endpoint. -/
theorem IsBestPath.unique (best : IsBestPath insertions method endpoint key)
    (best' : IsBestPath insertions method endpoint other) (same : key.status = other.status) :
    key = other := by
  by_cases verbatim : ⟨method, endpoint, key.status⟩ ∈ responseKeys insertions
  · have path := best.verbatim verbatim
    have path' := best'.verbatim (same ▸ verbatim)
    have methods := best.sameMethod.trans best'.sameMethod.symm
    cases key
    cases other
    simp_all
  · have least := best.fewest verbatim other best'.toServes same.symm
    have least' := best'.fewest (same ▸ verbatim) key best.toServes same
    exact (List.idxOf_inj best.inserted).mp (by omega)

/-- No two keys are both the best for an endpoint and a status. -/
theorem IsBest.unique (best : IsBest insertions method endpoint status key)
    (best' : IsBest insertions method endpoint status other) : key = other := by
  refine best.toIsBestPath.unique best'.toIsBestPath ((List.idxOf_inj best.listed).mp ?_)
  exact le_antisymm (best.first other best'.toServes best'.listed)
    (best'.first key best.toServes best.listed)

end Insertion

namespace ModuleIndex

open Insertion

/-- The most specific of some routes has the fewest parameters, and of those that have no more it
comes first. -/
theorem mostSpecific_least {earlier : ResponseRoute → ResponseRoute → Prop}
    {routes : List ResponseRoute} (ordered : routes.Pairwise earlier) {best : ResponseRoute}
    (found : mostSpecific routes = some best) :
    ∀ other ∈ routes, best.template.parameterCount < other.template.parameterCount ∨
      best.template.parameterCount = other.template.parameterCount ∧
        (best = other ∨ earlier best other) := by
  induction routes generalizing best with
  | nil => exact nofun
  | cons first rest ih =>
      obtain ⟨before, others⟩ := List.pairwise_cons.mp ordered
      rw [mostSpecific] at found
      split at found
      · next none =>
          cases found
          intro other member
          rcases List.mem_cons.mp member with rfl | inside
          · exact .inr ⟨rfl, .inl rfl⟩
          · have present := mostSpecific_isSome rest (List.ne_nil_of_mem inside)
            rw [none] at present
            cases present
      · next least leads =>
          have rival := before least (mostSpecific_mem rest least leads)
          split at found
          · next fewer =>
              cases found
              intro other member
              rcases List.mem_cons.mp member with rfl | inside
              · exact .inl fewer
              · exact ih others leads other inside
          · next more =>
              cases found
              intro other member
              rcases List.mem_cons.mp member with rfl | inside
              · exact .inr ⟨rfl, .inl rfl⟩
              · have below := ih others leads other inside
                have early := before other inside
                by_cases equal : first.template.parameterCount = other.template.parameterCount
                · exact .inr ⟨equal, .inr early⟩
                · exact .inl (by omega)

/-- Insertions keep routes and schemas together. -/
theorem Routed.insertAll {allowed : ResponseKey → Prop} {index : ModuleIndex}
    (routed : Routed allowed index) (insertions : List Insertion)
    (fits : ∀ key ∈ responseKeys insertions, allowed key) :
    Routed allowed (index.insertAll insertions) := by
  induction insertions generalizing index with
  | nil => exact routed
  | cons insertion rest ih =>
      cases insertion with
      | request operation schema => exact ih (routed.insertRequest operation schema) fits
      | response key schema =>
          obtain ⟨own, others⟩ := List.forall_mem_cons.mp fits
          exact ih (routed.insertResponse key schema own) others

section

variable (name : String) (specPath : Path) {insertions : List Insertion}
  (clear : ∀ key ∈ responseKeys insertions, ClearStatus key.status) (method : Method)
  (endpoint : String)

include clear

/-- The routes that match a call are those of the responses that serve it. -/
theorem mem_matchingRoutes_insertAll (candidate : String) (route : ResponseRoute) :
    route ∈ ((empty name specPath).insertAll insertions).matchingRoutes method endpoint candidate ↔
      ∃ key, Serves insertions method endpoint key ∧ key.status = candidate ∧
        route = routeOf key := by
  rw [mem_matchingRoutes, routes_insertAll name specPath insertions clear, List.mem_map]
  constructor
  · rintro ⟨⟨key, member, rfl⟩, own, same, matched⟩
    exact ⟨key, ⟨List.mem_eraseDups.mp member, own, matched⟩, same, rfl⟩
  · rintro ⟨key, serves, same, rfl⟩
    exact ⟨⟨key, List.mem_eraseDups.mpr serves.inserted, rfl⟩, serves.sameMethod, same,
      serves.matched⟩

/-- The most specific of the routes that match a call has the best path, if the endpoint itself has
no schema. -/
theorem isBestPath_of_mostSpecific (candidate : String) (route : ResponseRoute)
    (absent : ⟨method, endpoint, candidate⟩ ∉ responseKeys insertions)
    (found : mostSpecific (((empty name specPath).insertAll insertions).matchingRoutes method endpoint
      candidate) = some route) :
    ∃ key, IsBestPath insertions method endpoint key ∧ key.status = candidate ∧
      route = routeOf key := by
  have matching := mem_matchingRoutes_insertAll name specPath clear method
    endpoint candidate
  obtain ⟨key, serves, rfl, rfl⟩ := (matching route).mp (mostSpecific_mem _ _ found)
  have ordered : (((empty name specPath).insertAll insertions).matchingRoutes method endpoint
      key.status).Pairwise fun first second =>
        (responseKeys insertions).idxOf first.key < (responseKeys insertions).idxOf second.key := by
    rw [matchingRoutes, routes_insertAll name specPath insertions clear]
    refine List.Pairwise.filter _ (List.pairwise_map.mpr ?_)
    exact pairwise_idxOf_eraseDups (responseKeys insertions)
  refine ⟨key, ⟨serves, fun present => absurd present absent, ?_⟩, rfl, rfl⟩
  intro _ other covers same
  have least := mostSpecific_least ordered found (routeOf other)
    ((matching _).mpr ⟨other, covers, same, rfl⟩)
  refine least.imp id (And.imp id ?_)
  rintro (equal | early)
  · exact (congrArg (fun route => (responseKeys insertions).idxOf route.key) equal).le
  · exact early.le

/-- A schema for a status is the last one under the best key with that status. -/
theorem isBestPath_of_schemaForStatus (candidate : String) (own : ClearStatus candidate)
    (text : String) (schema : Json)
    (found : ((empty name specPath).insertAll insertions).schemaForStatus method endpoint candidate =
      some (text, schema)) :
    ∃ key, IsBestPath insertions method endpoint key ∧ key.status = candidate ∧
      text = key.text ∧ lastSchema? insertions key = some schema := by
  unfold schemaForStatus at found
  dsimp only at found
  have direct := schema?_insertAll_text name specPath insertions clear ⟨method, endpoint, candidate⟩ own
  split at found
  · next held stored =>
      cases found
      rw [direct] at stored
      have inserted : ⟨method, endpoint, candidate⟩ ∈ responseKeys insertions := by
        rw [← isSome_lastSchema?_iff, stored, Option.isSome_some]
      exact ⟨⟨method, endpoint, candidate⟩,
        ⟨serves_self inserted, fun _ => rfl, fun absent => absurd inserted absent⟩, rfl, rfl, stored⟩
  · next nothing =>
      have absent : ⟨method, endpoint, candidate⟩ ∉ responseKeys insertions := by
        rw [← isSome_lastSchema?_iff, ← direct, nothing]
        exact Bool.false_ne_true
      split at found
      · cases found
      · next route specific =>
          obtain ⟨key, best, rfl, rfl⟩ :=
            isBestPath_of_mostSpecific name specPath clear method endpoint candidate route absent specific
          obtain ⟨held, stored, same⟩ := Option.map_eq_some_iff.mp found
          cases same
          have last := schema?_insertAll_text name specPath insertions clear key own
          exact ⟨key, best, rfl, rfl, last ▸ stored⟩

/-- A status has a schema if and only if some response with it serves the call. -/
theorem isSome_schemaForStatus_iff (candidate : String) (own : ClearStatus candidate) :
    (((empty name specPath).insertAll insertions).schemaForStatus method endpoint
        candidate).isSome = true ↔
      ∃ key, Serves insertions method endpoint key ∧ key.status = candidate := by
  constructor
  · intro present
    obtain ⟨⟨text, schema⟩, found⟩ := Option.isSome_iff_exists.mp present
    obtain ⟨key, best, same, -⟩ :=
      isBestPath_of_schemaForStatus name specPath clear method endpoint candidate own text schema found
    exact ⟨key, best.toServes, same⟩
  · rintro ⟨key, serves, rfl⟩
    have routed := (routed_empty name specPath).insertAll insertions fun _ => id
    exact routed.isSome_schemaForStatus method endpoint key.status (routeOf key)
      ((mem_matchingRoutes_insertAll name specPath clear method endpoint key.status _).mpr
        ⟨key, serves, rfl, rfl⟩)

/-- A call has no schema if and only if no response with a candidate for its status serves it. -/
theorem responseSchema_eq_none_iff (status : Nat) :
    ((empty name specPath).insertAll insertions).responseSchema method endpoint status = none ↔
      ∀ key, Serves insertions method endpoint key → key.status ∉ statusCandidates status := by
  have served (candidate : String) (listed : candidate ∈ statusCandidates status) :=
    isSome_schemaForStatus_iff name specPath clear method endpoint candidate
      (clean_of_mem_statusCandidates status candidate listed)
  rw [responseSchema, List.findSome?_eq_none_iff]
  constructor
  · intro nothing key serves listed
    have present := (served key.status listed).mpr ⟨key, serves, rfl⟩
    rw [nothing key.status listed] at present
    cases present
  · intro none candidate listed
    rw [← Option.not_isSome_iff_eq_none, served candidate listed]
    rintro ⟨key, serves, rfl⟩
    exact none key serves listed

/-- A schema for a call is the last one under the best key. -/
theorem isBest_of_responseSchema (status : Nat) (text : String) (schema : Json)
    (found : ((empty name specPath).insertAll insertions).responseSchema method endpoint status =
      some (text, schema)) :
    ∃ key, IsBest insertions method endpoint status key ∧ text = key.text ∧
      lastSchema? insertions key = some schema := by
  obtain ⟨candidate, listed, result, first⟩ := findSome?_first found
  obtain ⟨key, best, rfl, same, last⟩ :=
    isBestPath_of_schemaForStatus name specPath clear method endpoint candidate
      (clean_of_mem_statusCandidates status candidate listed) text schema result
  refine ⟨key, ⟨best, listed, fun other serves others => first other.status others ?_⟩, same, last⟩
  exact (isSome_schemaForStatus_iff name specPath clear method endpoint other.status
    (clean_of_mem_statusCandidates status other.status others)).mpr ⟨other, serves, rfl⟩

end

/-- The schema of a response is the last one under the best key for the call, and there is none only
if no response serves the call. -/
theorem responseSchema_insertAll (name : String) (specPath : Path) (insertions : List Insertion)
    (clear : ∀ key ∈ responseKeys insertions, ClearStatus key.status) (method : Method)
    (endpoint : String) (status : Nat) :
    let index := (empty name specPath).insertAll insertions
    (index.responseSchema method endpoint status = none ↔
        ∀ key, Serves insertions method endpoint key → key.status ∉ statusCandidates status) ∧
      (∀ text schema, index.responseSchema method endpoint status = some (text, schema) ↔
        ∃ key, IsBest insertions method endpoint status key ∧ text = key.text ∧
          lastSchema? insertions key = some schema) ∧
      ∀ text schema, index.responseSchema method endpoint status = some (text, schema) →
        ∀ operation, text ≠ requestKey operation := by
  intro index
  have none_iff := responseSchema_eq_none_iff name specPath clear method endpoint status
  have best_of := isBest_of_responseSchema name specPath clear method endpoint status
  refine ⟨none_iff, fun text schema => ⟨best_of text schema, ?_⟩, ?_⟩
  · rintro ⟨key, best, rfl, last⟩
    have present : index.responseSchema method endpoint status ≠ none := fun nothing =>
      none_iff.mp nothing key best.toServes best.listed
    obtain ⟨⟨text, other⟩, result⟩ := Option.ne_none_iff_exists'.mp present
    obtain ⟨key', best', rfl, last'⟩ := best_of text other result
    cases best.unique best'
    cases last.symm.trans last'
    exact result
  · intro text schema found operation
    obtain ⟨key, best, rfl, -⟩ := best_of text schema found
    exact key.text_ne_requestKey operation
      (clean_of_mem_statusCandidates status key.status best.listed).2

end ModuleIndex

namespace AccountModule

open Insertion ModuleIndex

/-- Two templates with one parameter, one of them inserted twice, and a path that has a schema for
other statuses only. -/
def insertions : List Insertion :=
  [.request "account" (.string "request"),
    .response ⟨.get, "/users/\x7bid\x7d", "200"⟩ (.string "user"),
    .response ⟨.get, "/\x7bkind\x7d/me", "200"⟩ (.string "kind"),
    .response ⟨.get, "/users/\x7bid\x7d", "default"⟩ (.string "error"),
    .response ⟨.get, "/users/me", "default"⟩ (.string "own error"),
    .response ⟨.get, "/users/\x7bid\x7d", "200"⟩ (.string "newer user")]

def index : ModuleIndex := (empty "account" ⟨"/account.yaml"⟩).insertAll insertions

/-- A template for the status itself comes before the path of the endpoint for other statuses, and of
two templates the one that was inserted first. -/
theorem responseSchema_prefers_first_template :
    (∀ key ∈ responseKeys insertions, ClearStatus key.status) ∧
      index.responseSchema .get "/users/me" 200 =
          some ("GET /users/\x7bid\x7d 200", .string "newer user") ∧
        index.responseSchema .get "/users/me" 404 =
          some ("GET /users/me default", .string "own error") ∧
          index.responseSchema .put "/users/me" 200 = none := by
  have clear : ∀ key ∈ responseKeys insertions, ClearStatus key.status := by
    unfold ClearStatus
    decide
  have found := responseSchema_insertAll "account" ⟨"/account.yaml"⟩ insertions clear
  have template : IsBest insertions .get "/users/me" 200 ⟨.get, "/users/\x7bid\x7d", "200"⟩ := by
    have least : ∀ other ∈ responseKeys insertions, other.status = "200" →
        (PathTemplate.ofString "/users/\x7bid\x7d").parameterCount =
            (PathTemplate.ofString other.path).parameterCount ∧
          (responseKeys insertions).idxOf ⟨.get, "/users/\x7bid\x7d", "200"⟩ ≤
            (responseKeys insertions).idxOf other := by
      decide
    refine ⟨⟨⟨by decide, rfl, by decide⟩, by decide, ?_⟩, by decide, ?_⟩
    · exact fun _ other serves same => .inr (least other serves.inserted same)
    · exact fun other _ _ => Nat.zero_le _
  have verbatim : IsBest insertions .get "/users/me" 404 ⟨.get, "/users/me", "default"⟩ := by
    have only : ∀ other ∈ responseKeys insertions, other.status ∈ statusCandidates 404 →
        other.status = "default" := by
      decide
    refine ⟨⟨⟨by decide, rfl, by decide⟩, fun _ => rfl, fun absent => ?_⟩, by decide, ?_⟩
    · exact absurd (by decide) absent
    · intro other serves listed
      rw [only other serves.inserted listed]
  refine ⟨clear, ((found _ _ _).2.1 _ _).mpr ⟨_, template, rfl, rfl⟩,
    ((found _ _ _).2.1 _ _).mpr ⟨_, verbatim, rfl, rfl⟩, (found _ _ _).1.mpr ?_⟩
  intro key serves
  have other : ∀ key ∈ responseKeys insertions, key.method ≠ .put := by decide
  exact absurd serves.sameMethod (other key serves.inserted)

end AccountModule

end ApiContract
