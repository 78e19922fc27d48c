import ApiContract.Registry

/-
This file proves what of an outcome can depend on the body of a call. Whether a call is skipped, and
whether its schema is at fault, is settled before the body is looked at; only a schema that is found and
can be used is asked about the body.
-/

namespace ApiContract

namespace Outcome

/-- Whether an outcome says that a body fits a schema, or else reports all its violations under the
key of the schema. -/
def Reports (headline key : String) (schema body : Json) (outcome : Outcome) : Prop :=
  check schema body = .ok () ∧ outcome = .passed ∨
    ∃ violations, violations ≠ [] ∧ check schema body = .error (.violations violations) ∧
      outcome = .failed (headline ++ " (" ++ key ++ "):\n" ++
        "\n".intercalate (violations.map Violation.line)) violations

/-- The message on a schema that cannot be used. -/
def faultMessage (key : String) (fault : SchemaFault) : String :=
  "validation error (" ++ key ++ "): " ++ ("invalid schema: " ++ fault.message)

/-- Whether the outcomes of one call for all bodies agree in being skipped, in a fault of the
schema, and in the schema that bodies are checked against. -/
structure IgnoresBody (covering : Option (String × Json)) (headline : String)
    (outcome : Json → Outcome) : Prop where
  skipped (body body' : Json) (message : String) :
    outcome body = .skipped message ↔ outcome body' = .skipped message
  uncovered (body : Json) : (outcome body).isSkipped = true ↔ covering = none
  faulty (body body' : Json) (message : String) :
    outcome body = .failed message [] ↔ outcome body' = .failed message []
  unusable (body : Json) (message : String) : outcome body = .failed message [] ↔
    ∃ key schema fault, covering = some (key, schema) ∧
      Schema.ofDocument schema = .error fault ∧ message = faultMessage key fault
  checked (body body' : Json) (covered : (outcome body).isSkipped = false)
    (usable : ∀ message, outcome body ≠ .failed message []) : ∃ key schema,
      covering = some (key, schema) ∧ Reports headline key schema body (outcome body) ∧
        Reports headline key schema body' (outcome body')

/-- A check finds a fault of the schema for every body, or reports on the body. -/
theorem ofCheck_cases (schema : Json) (key headline : String) :
    (∃ fault, Schema.ofDocument schema = .error fault ∧
        ∀ body, ofCheck schema body key headline = .failed (faultMessage key fault) []) ∨
      (∀ fault, Schema.ofDocument schema ≠ .error fault) ∧
        ∀ body, Reports headline key schema body (ofCheck schema body key headline) := by
  obtain ⟨result, built⟩ : ∃ result, Schema.ofDocument schema = result := ⟨_, rfl⟩
  cases result with
  | error fault =>
      left
      refine ⟨fault, built, fun body => ?_⟩
      have fails : check schema body = .error (.schema fault) := by simp only [check, built]
      simp only [ofCheck, fails]
      rfl
  | ok compiled =>
      right
      constructor
      · intro fault broken
        cases built.symm.trans broken
      · intro body
        rcases findings : compiled.findings body .root .root with _ | ⟨finding, rest⟩
        · have passes : check schema body = .ok () := by simp only [check, built, findings]
          exact .inl ⟨passes, by simp only [ofCheck, passes]⟩
        · have fails : check schema body =
              .error (.violations ((finding :: rest).map (Violation.ofFinding body))) := by
            simp only [check, built, findings]
          exact .inr ⟨_, by simp, fails, by simp only [ofCheck, fails, Violation.lines]⟩

/-- What a report says of a body is not that the schema is at fault. -/
theorem Reports.usable {headline key : String} {schema body : Json} {outcome : Outcome}
    (reports : Reports headline key schema body outcome) :
    outcome.isSkipped = false ∧ ∀ message, outcome ≠ .failed message [] := by
  rcases reports with ⟨_, rfl⟩ | ⟨violations, some, _, rfl⟩
  · exact ⟨rfl, nofun⟩
  · refine ⟨rfl, fun message same => ?_⟩
    cases same
    exact some rfl

/-- A check that always skips ignores the body. -/
theorem ignoresBody_of_skipped {headline missing : String} {outcome : Json → Outcome}
    (settled : ∀ body, outcome body = .skipped missing) : IgnoresBody none headline outcome where
  skipped body body' message := by rw [settled, settled]
  uncovered body := by simp [settled, isSkipped]
  faulty body body' message := by rw [settled, settled]
  unusable body message := by simp [settled]
  checked body body' covered := by
    rw [settled] at covered
    cases covered

/-- A check with a broken schema fails alike for all bodies. -/
theorem ignoresBody_of_fault {headline key : String} {schema : Json} {fault : SchemaFault}
    {outcome : Json → Outcome} (broken : Schema.ofDocument schema = .error fault)
    (settled : ∀ body, outcome body = .failed (faultMessage key fault) []) :
    IgnoresBody (some (key, schema)) headline outcome where
  skipped body body' message := by rw [settled, settled]
  uncovered body := by simp [settled, isSkipped]
  faulty body body' message := by rw [settled, settled]
  unusable body message := by
    rw [settled]
    constructor
    · intro same
      cases same
      exact ⟨key, schema, fault, rfl, broken, rfl⟩
    · rintro ⟨key', schema', fault', covered, broken', rfl⟩
      cases covered
      cases broken.symm.trans broken'
      rfl
  checked body body' _ usable := absurd (settled body) (usable _)

/-- A check that reports what the schema finds does all else without the body. -/
theorem ignoresBody_of_reports {headline key : String} {schema : Json} {outcome : Json → Outcome}
    (sound : ∀ fault, Schema.ofDocument schema ≠ .error fault)
    (reports : ∀ body, Reports headline key schema body (outcome body)) :
    IgnoresBody (some (key, schema)) headline outcome where
  skipped body body' message := by
    have covered (other : Json) : outcome other ≠ .skipped message := by
      intro skipped
      have answered := (reports other).usable.1
      rw [skipped] at answered
      cases answered
    exact iff_of_false (covered body) (covered body')
  uncovered body := by simp [(reports body).usable.1]
  faulty body body' message :=
    iff_of_false ((reports body).usable.2 message) ((reports body').usable.2 message)
  unusable body message := by
    apply iff_of_false ((reports body).usable.2 message)
    rintro ⟨key', schema', fault, covered, broken, _⟩
    cases covered
    exact sound fault broken
  checked body body' _ _ := ⟨key, schema, rfl, reports body, reports body'⟩

/-- The checks of all bodies against one schema ignore the body in all that comes before it. -/
theorem ignoresBody_ofCheck (schema : Json) (key headline : String) :
    IgnoresBody (some (key, schema)) headline fun body => ofCheck schema body key headline := by
  rcases ofCheck_cases schema key headline with ⟨fault, broken, settled⟩ | ⟨sound, reports⟩
  · exact ignoresBody_of_fault broken settled
  · exact ignoresBody_of_reports sound reports

end Outcome

namespace Registry

open Outcome

/-- The schema that covers a response, with its key. -/
def responseSchema? (registry : Registry) (module spelled endpoint : String) (status : Nat) :
    Option (String × Json) := do
  let index ← registry.module? module
  let method ← Method.ofString? spelled
  index.responseSchema method (endpointPath endpoint registry.config.apiPrefix) status

/-- The schema that covers the request of an operation, with its key. -/
def requestSchema? (registry : Registry) (module operation : String) : Option (String × Json) := do
  (← registry.module? module).requestSchema operation

/-- All but the findings on a response is settled without its body. -/
theorem ignoresBody_checkResponse (registry : Registry) (module spelled endpoint : String)
    (status : Nat) :
    IgnoresBody (registry.responseSchema? module spelled endpoint status) "schema validation failed"
      (registry.checkResponse module spelled endpoint status) := by
  unfold responseSchema?
  cases loaded : registry.module? module with
  | none =>
      apply ignoresBody_of_skipped
      intro body
      simp only [checkResponse, loaded]
      rfl
  | some index =>
      cases read : Method.ofString? spelled with
      | none =>
          apply ignoresBody_of_skipped
          intro body
          simp only [checkResponse, loaded, read]
          rfl
      | some method =>
          let path := endpointPath endpoint registry.config.apiPrefix
          change IgnoresBody (index.responseSchema method path status) _ _
          cases found : index.responseSchema method path status with
          | none =>
              apply ignoresBody_of_skipped
              intro body
              simp only [checkResponse, loaded, read, path, found]
              rfl
          | some covering =>
              obtain ⟨key, schema⟩ := covering
              have checks : registry.checkResponse module spelled endpoint status = fun body =>
                  ofCheck schema body key "schema validation failed" := by
                funext body
                simp only [checkResponse, loaded, read, path, found]
              rw [checks]
              exact ignoresBody_ofCheck schema key _

/-- All but the findings on a request is settled without its body. -/
theorem ignoresBody_checkRequest (registry : Registry) (module operation : String) :
    IgnoresBody (registry.requestSchema? module operation) "request schema validation failed"
      (registry.checkRequest module operation) := by
  unfold requestSchema?
  cases loaded : registry.module? module with
  | none =>
      apply ignoresBody_of_skipped
      intro body
      simp only [checkRequest, loaded]
      rfl
  | some index =>
      change IgnoresBody (index.requestSchema operation) _ _
      cases found : index.requestSchema operation with
      | none =>
          apply ignoresBody_of_skipped
          intro body
          simp only [checkRequest, loaded, found]
          rfl
      | some covering =>
          obtain ⟨key, schema⟩ := covering
          have checks : registry.checkRequest module operation = fun body =>
              ofCheck schema body key "request schema validation failed" := by
            funext body
            simp only [checkRequest, loaded, found]
          rw [checks]
          exact ignoresBody_ofCheck schema key _

/-- Whether a call is skipped, whether its schema can be used and which schema that is, does not
depend on the body. -/
theorem outcomes_ignore_body (registry : Registry) (module : String) :
    (∀ (spelled endpoint : String) (status : Nat),
      IgnoresBody (registry.responseSchema? module spelled endpoint status) "schema validation failed"
        (registry.checkResponse module spelled endpoint status)) ∧
      ∀ operation : String,
        IgnoresBody (registry.requestSchema? module operation) "request schema validation failed"
          (registry.checkRequest module operation) :=
  ⟨registry.ignoresBody_checkResponse module, registry.ignoresBody_checkRequest module⟩

end Registry

end ApiContract
