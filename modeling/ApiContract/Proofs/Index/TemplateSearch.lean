import ApiContract.Proofs.Index.Lookup
import ApiContract.Proofs.Route.Instance

/-
This file proves that the schema of a response may be looked up among the templates alone. The key of
the endpoint itself, which is tried first, only leads to the template that the search would end at.
-/

namespace ApiContract

namespace ModuleIndex

open Insertion

/-- The schema for one status of a specification that the templates alone give. -/
def templateSchemaForStatus (index : ModuleIndex) (method : Method) (endpoint status : String) :
    Option (String × Json) :=
  (mostSpecific (index.matchingRoutes method endpoint status)).bind fun route =>
    (index.schema? route.key.text).map fun schema => (route.key.text, schema)

/-- The schema of a response that the templates alone give, with its key. -/
def templateSchema (index : ModuleIndex) (method : Method) (endpoint : String) (status : Nat) :
    Option (String × Json) :=
  (statusCandidates status).findSome? fun candidate =>
    index.templateSchemaForStatus method endpoint candidate

/-- Whether the templates of two keys with one method and one status have the same parts only if the
keys are the same. -/
def TemplatesDiffer (allowed : ResponseKey → Prop) : Prop :=
  ∀ first second, allowed first → allowed second → first.method = second.method →
    first.status = second.status →
      (PathTemplate.ofString first.path).segments = (PathTemplate.ofString second.path).segments →
        first = second

/-- A route with fewer parameters than all others is the most specific one. -/
theorem mostSpecific_of_fewest {routes : List ResponseRoute} {best : ResponseRoute}
    (member : best ∈ routes)
    (fewest : ∀ other ∈ routes,
      other = best ∨ best.template.parameterCount < other.template.parameterCount) :
    mostSpecific routes = some best := by
  have present := mostSpecific_isSome routes (List.ne_nil_of_mem member)
  obtain ⟨route, found⟩ := Option.isSome_iff_exists.mp present
  have unordered : routes.Pairwise fun _ _ => True := List.pairwise_of_forall fun _ _ => trivial
  have least := mostSpecific_least unordered found best member
  rcases fewest route (mostSpecific_mem routes route found) with same | fewer
  · rw [found, same]
  · omega

/-- The templates see no slashes at the ends of an endpoint, or beside other slashes. -/
theorem templateSchema_congr (index : ModuleIndex) (method : Method) {endpoint endpoint' : String}
    (same : SameUpToSlashes endpoint endpoint') (status : Nat) :
    index.templateSchema method endpoint status = index.templateSchema method endpoint' status := by
  simp only [templateSchema, templateSchemaForStatus, matchingRoutes, PathTemplate.matchesEndpoint,
    same.pathSegments_eq]

variable {allowed : ResponseKey → Prop} {index : ModuleIndex}

/-- A route of an index is that of its own key. -/
theorem Routed.eq_routeOf (routed : Routed allowed index) (route : ResponseRoute)
    (member : route ∈ index.routes) : route = routeOf route.key := by
  have template := routed.parsed route member
  cases route
  simpa [routeOf, ResponseRoute.key] using template

/-- The search for the text of a template ends at that template: each other one that matches has more
parameters. -/
theorem Routed.mostSpecific_own (routed : Routed allowed index) (differ : TemplatesDiffer allowed)
    (own : ResponseRoute) (inside : own ∈ index.routes) :
    mostSpecific (index.matchingRoutes own.method own.template.text own.status) = some own := by
  have template := routed.parsed own inside
  have matched : own.template.matchesEndpoint own.template.text = true := by
    have self := PathTemplate.matchesEndpoint_self own.template.text
    rwa [← template] at self
  apply mostSpecific_of_fewest
  · exact (mem_matchingRoutes _ _ _ _ _).mpr ⟨inside, rfl, rfl, matched⟩
  -- A route that matches the text of another has the same parts, and so is the same, or has more
  -- parameters, and so is less specific.
  · intro other matching
    obtain ⟨listed, method, status, covers⟩ := (mem_matchingRoutes _ _ _ _ _).mp matching
    have template' := routed.parsed other listed
    rw [template'] at covers
    rcases PathTemplate.segments_eq_or_more_parameters covers with segments | more
    · left
      have keys := differ other.key own.key (routed.fits other listed) (routed.fits own inside)
        method status segments
      rw [routed.eq_routeOf other listed, keys, ← routed.eq_routeOf own inside]
    · right
      rwa [← template, ← template'] at more

/-- For a status, the templates alone give the schema that the look-up gives. -/
theorem Routed.schemaForStatus_eq (routed : Routed allowed index)
    (spaceless : ∀ key, allowed key → ' ' ∉ key.status.toList) (differ : TemplatesDiffer allowed)
    (method : Method) (endpoint status : String) (clear : ClearStatus status) :
    index.schemaForStatus method endpoint status =
      index.templateSchemaForStatus method endpoint status := by
  unfold schemaForStatus templateSchemaForStatus
  dsimp only
  split
  · next schema stored =>
      obtain ⟨own, inside, same⟩ := routed.route_of_schema? spaceless ⟨method, endpoint, status⟩
        clear.1 clear.2 (by rw [stored, Option.isSome_some])
      obtain ⟨rfl, rfl, rfl⟩ := ResponseKey.mk.inj same
      rw [routed.mostSpecific_own differ own inside, Option.bind_some]
      exact (congrArg (Option.map _) stored).symm
  · split
    · next nothing => rw [nothing, Option.bind_none]
    · next route found => rw [found, Option.bind_some]

/-- Where no two templates have the same parts, the search by templates alone finds the same key and
schema, whatever slashes are added to the endpoint. -/
theorem responseSchema_eq_templateSchema (name : String) (specPath : Path)
    (insertions : List Insertion)
    (spaceless : ∀ key ∈ responseKeys insertions, ' ' ∉ key.status.toList)
    (differ : TemplatesDiffer (· ∈ responseKeys insertions)) (method : Method) (endpoint : String)
    (status : Nat) :
    let index := (empty name specPath).insertAll insertions
    index.responseSchema method endpoint status = index.templateSchema method endpoint status ∧
      ∀ endpoint', SameUpToSlashes endpoint endpoint' →
        index.responseSchema method endpoint' status =
          index.responseSchema method endpoint status := by
  intro index
  have routed : Routed (· ∈ responseKeys insertions) index :=
    (routed_empty name specPath).insertAll insertions fun _ => id
  have searched (endpoint : String) :
      index.responseSchema method endpoint status = index.templateSchema method endpoint status := by
    unfold responseSchema templateSchema
    apply findSome?_congr
    intro candidate listed
    exact routed.schemaForStatus_eq spaceless differ method endpoint candidate
      (clean_of_mem_statusCandidates status candidate listed)
  refine ⟨searched endpoint, fun endpoint' same => ?_⟩
  calc
    index.responseSchema method endpoint' status
    _ = index.templateSchema method endpoint' status := searched endpoint'
    _ = index.templateSchema method endpoint status :=
      (templateSchema_congr index method same status).symm
    _ = index.responseSchema method endpoint status := (searched endpoint).symm

end ModuleIndex

namespace AccountModule

open Insertion ModuleIndex

/-- A path that has a schema of its own leads to it with a slash too many, too. -/
theorem responseSchema_of_slashed_path :
    (∀ key ∈ responseKeys insertions, ' ' ∉ key.status.toList) ∧
      TemplatesDiffer (· ∈ responseKeys insertions) ∧
      SameUpToSlashes "/users/me" "/users//me" ∧
      index.templateSchema .get "/users/me" 404 =
        some ("GET /users/me default", .string "own error") ∧
      index.responseSchema .get "/users//me" 404 =
        some ("GET /users/me default", .string "own error") := by
  have spaceless : ∀ key ∈ responseKeys insertions, ' ' ∉ key.status.toList := by decide
  have apart : ∀ first ∈ responseKeys insertions, ∀ second ∈ responseKeys insertions,
      first.method = second.method → first.status = second.status →
        (PathTemplate.ofString first.path).segments = (PathTemplate.ofString second.path).segments →
          first = second := by
    decide
  have differ : TemplatesDiffer (· ∈ responseKeys insertions) :=
    fun first second inside inside' => apart first inside second inside'
  have slashed : SameUpToSlashes "/users/me" "/users//me" := .rel _ _ (.double "/users" "me")
  obtain ⟨searched, alike⟩ := responseSchema_eq_templateSchema "account" ⟨"/account.yaml"⟩ insertions
    spaceless differ .get "/users/me" 404
  have template : index.templateSchema .get "/users/me" 404 =
      some ("GET /users/me default", .string "own error") := by
    rfl
  exact ⟨spaceless, differ, slashed, template, (alike _ slashed).trans (searched.trans template)⟩

end AccountModule

end ApiContract
