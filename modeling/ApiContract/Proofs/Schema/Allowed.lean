import ApiContract.Schema.Findings
import Mathlib.Tactic

/-
This file says for each rule which values keep it. Where a value and a schema stand makes no
difference to that, so the places of findings are left out.
-/

namespace ApiContract

/-- Whether a value keeps a rule. -/
def Rule.Allows (rule : Rule) (value : Json) : Prop := rule.findings value .root .root = []

/-- Numbered items are the items. -/
theorem forall_mem_numberedFrom (property : Json → Prop) (start : Nat) (items : List Json) :
    (∀ entry ∈ numberedFrom start items, property entry.2) ↔ ∀ item ∈ items, property item := by
  induction items generalizing start with
  | nil => simp [numberedFrom]
  | cons item rest ih => rw [numberedFrom, List.forall_mem_cons, List.forall_mem_cons, ih]

/-- A key has findings of its own if it has a schema of its own. -/
theorem namedFindings_isSome (key : String) (member : Json) (place : Pointer)
    (schemas : List (String × Schema)) (own : Pointer) :
    (namedFindings key member place schemas own).isSome = (schemas.lookup key).isSome := by
  induction schemas with
  | nil => simp [namedFindings]
  | cons entry rest ih =>
      obtain ⟨name, schema⟩ := entry
      rw [namedFindings, List.lookup_cons]
      by_cases same : name = key
      · simp [same]
      · have other : (key == name) = false := beq_false_of_ne (Ne.symm same)
        simp [same, other, ih]

mutual

/-- A schema has no findings at a value, wherever they stand, if it allows the value. -/
theorem Schema.findings_eq_nil_iff (value : Json) (place : Pointer) :
    (schema : Schema) → (own : Pointer) →
      (schema.findings value place own = [] ↔ schema.allows value)
  | .anything, _ => by simp [Schema.allows, Schema.findings]
  | .nothing, _ => by simp [Schema.allows, Schema.findings]
  | .rules list, own => by
      rw [Schema.allows, List.isEmpty_iff, Schema.findings, Schema.findings,
        ruleListFindings_eq_nil_iff value place list own,
        ruleListFindings_eq_nil_iff value .root list .root]

/-- Rules have no findings at a value if it keeps each of them. -/
theorem ruleListFindings_eq_nil_iff (value : Json) (place : Pointer) :
    (list : List Rule) → (own : Pointer) →
      (ruleListFindings value place list own = [] ↔ ∀ rule ∈ list, rule.Allows value)
  | [], _ => by simp [ruleListFindings]
  | rule :: rest, own => by
      rw [ruleListFindings, List.append_eq_nil_iff, List.forall_mem_cons,
        Rule.findings_eq_nil_iff value place rule own,
        ruleListFindings_eq_nil_iff value place rest own]

/-- Whether a rule has findings at a value does not depend on where they stand. -/
theorem Rule.findings_eq_nil_iff (value : Json) (place : Pointer) :
    (rule : Rule) → (own : Pointer) → (rule.findings value place own = [] ↔ rule.Allows value)
  | .items start schema, own => by
      simp only [Rule.Allows, Rule.findings, List.flatMap_eq_nil_iff,
        Schema.findings_eq_nil_iff _ _ schema]
  | .tuple keyword schemas, own => by
      simp only [Rule.Allows, Rule.findings, tupleFindings_eq_nil_iff _ _ schemas]
  | .moreItems start schema, own => by
      simp only [Rule.Allows, Rule.findings, List.flatMap_eq_nil_iff,
        Schema.findings_eq_nil_iff _ _ schema]
  | .contains schema limits, own => by
      simp only [Rule.Allows, Rule.findings]
      cases value with
      | array elements =>
          dsimp only
          split <;> simp
      | _ => rfl
  | .properties schemas, own => by
      simp only [Rule.Allows, Rule.findings, propertyFindings_eq_nil_iff _ _ schemas]
  | .patternProperties schemas, own => by
      simp only [Rule.Allows, Rule.findings, patternListFindings_eq_nil_iff _ _ schemas]
  | .closedProperties schemas patterns, own => by
      simp only [Rule.Allows, Rule.findings]
      split
      · simp only [List.flatMap_eq_nil_iff, List.append_eq_nil_iff,
          namedFindings_getD_eq_nil_iff _ _ _ schemas, patternFindings_eq_nil_iff _ _ _ patterns]
      · simp
  | .openProperties schemas patterns other, own => by
      simp only [Rule.Allows, Rule.findings, List.flatMap_eq_nil_iff]
      refine forall₂_congr fun member _ => ?_
      simp only [namedFindings_isSome]
      split
      · simp only [List.append_eq_nil_iff, namedFindings_getD_eq_nil_iff _ _ _ schemas,
          patternFindings_eq_nil_iff _ _ _ patterns]
      · simp only [Schema.findings_eq_nil_iff _ _ other]
  | .propertyNames schema, own => by
      simp only [Rule.Allows, Rule.findings, List.flatMap_eq_nil_iff,
        Schema.findings_eq_nil_iff _ _ schema]
  | .schemaWith keyword key schema, own => by
      simp only [Rule.Allows, Rule.findings]
      split
      · simp only [Schema.findings_eq_nil_iff _ _ schema]
      · rfl
  | .allOf schemas, own => by
      simp only [Rule.Allows, Rule.findings, schemaListFindings_eq_nil_iff _ _ schemas]
  | .anyOf schemas, own => by
      simp only [Rule.Allows, Rule.findings]
      split <;> simp
  | .oneOf schemas, own => by
      simp only [Rule.Allows, Rule.findings]
      split
      · simp
      · split <;> simp
  | .negation source schema, own => by
      simp only [Rule.Allows, Rule.findings]
      split <;> simp
  | .conditional condition whenTrue whenFalse, own => by
      simp only [Rule.Allows, Rule.findings]
      split
      · simp only [optionalFindings_eq_nil_iff _ _ whenTrue]
      · simp only [optionalFindings_eq_nil_iff _ _ whenFalse]
  | .unevaluatedItems neighbours schema, own => by
      simp only [Rule.Allows, Rule.findings]
      split <;> simp
  | .unevaluatedProperties neighbours schema, own => by
      simp only [Rule.Allows, Rule.findings]
      split <;> simp
  | .types _, _ | .writtenTypes _, _ | .enumeration _, _ | .constant _, _ | .bound _ _, _
  | .multipleOf _, _ | .least _ _, _ | .most _ _, _ | .pattern _ _, _ | .format _ _, _
  | .media _, _ | .encoding _, _ | .encodedMedia _ _, _ | .unique, _ | .noMoreItems _, _
  | .required _, _ | .noProperties, _ | .noPropertyNames, _ | .requiredWith _ _ _, _ => by
      simp only [Rule.Allows, Rule.findings, List.map_eq_nil_iff]

/-- A schema that may be absent has no findings at a value that it allows. -/
theorem optionalFindings_eq_nil_iff (value : Json) (place : Pointer) :
    (schema : Option Schema) → (own : Pointer) →
      (optionalFindings value place schema own = [] ↔ ∀ given ∈ schema, given.allows value)
  | none, _ => by simp [optionalFindings]
  | some schema, own => by
      simp [optionalFindings, Schema.findings_eq_nil_iff value place schema own]

/-- A tuple has no findings if each item is allowed by the schema at its place. -/
theorem tupleFindings_eq_nil_iff (items : List (Nat × Json)) (place : Pointer) :
    (schemas : List Schema) → (own : Pointer) →
      (tupleFindings items place schemas own = [] ↔
        ∀ pair ∈ items.zip schemas, pair.2.allows pair.1.2)
  | [], _ => by simp [tupleFindings]
  | schema :: rest, own => by
      cases items with
      | nil => simp [tupleFindings]
      | cons entry others =>
          rw [tupleFindings, List.append_eq_nil_iff, List.zip_cons_cons, List.forall_mem_cons,
            Schema.findings_eq_nil_iff entry.2 _ schema _,
            tupleFindings_eq_nil_iff others place rest own]

/-- Schemas have no findings at a value that each of them allows. -/
theorem schemaListFindings_eq_nil_iff (value : Json) (place : Pointer) :
    (schemas : List Schema) → (own : Pointer) → (index : Nat) →
      (schemaListFindings value place schemas own index = [] ↔
        ∀ schema ∈ schemas, schema.allows value)
  | [], _, _ => by simp [schemaListFindings]
  | schema :: rest, own, index => by
      rw [schemaListFindings, List.append_eq_nil_iff, List.forall_mem_cons,
        Schema.findings_eq_nil_iff value _ schema _,
        schemaListFindings_eq_nil_iff value place rest own (index + 1)]

/-- Named schemas have no findings if the members of their names are allowed. -/
theorem propertyFindings_eq_nil_iff (value : Json) (place : Pointer) :
    (schemas : List (String × Schema)) → (own : Pointer) →
      (propertyFindings value place schemas own = [] ↔
        ∀ entry ∈ schemas, ∀ member, value.member? entry.1 = some member → entry.2.allows member)
  | [], _ => by simp [propertyFindings]
  | (key, schema) :: rest, own => by
      rw [propertyFindings, List.append_eq_nil_iff, List.forall_mem_cons,
        propertyFindings_eq_nil_iff value place rest own]
      refine and_congr_left' ?_
      split
      · next member found => simp [found, Schema.findings_eq_nil_iff member _ schema _]
      · next absent => simp [absent]

/-- A member has no findings under its name if the schema of that name allows it. -/
theorem namedFindings_getD_eq_nil_iff (key : String) (member : Json) (place : Pointer) :
    (schemas : List (String × Schema)) → (own : Pointer) →
      ((namedFindings key member place schemas own).getD [] = [] ↔
        ∀ schema, schemas.lookup key = some schema → schema.allows member)
  | [], _ => by simp [namedFindings]
  | (name, schema) :: rest, own => by
      rw [namedFindings, List.lookup_cons]
      by_cases same : name = key
      · simp [same, Schema.findings_eq_nil_iff member _ schema _]
      · have other : (key == name) = false := beq_false_of_ne (Ne.symm same)
        simp [same, other, namedFindings_getD_eq_nil_iff key member place rest own]

/-- A member has no findings under patterns if those it matches allow it. -/
theorem patternFindings_eq_nil_iff (key : String) (member : Json) (place : Pointer) :
    (patterns : List (String × Pattern × Schema)) → (own : Pointer) →
      (patternFindings key member place patterns own = [] ↔
        ∀ entry ∈ patterns, entry.2.1.isMatch key → entry.2.2.allows member)
  | [], _ => by simp [patternFindings]
  | (source, pattern, schema) :: rest, own => by
      rw [patternFindings, List.append_eq_nil_iff, List.forall_mem_cons,
        patternFindings_eq_nil_iff key member place rest own]
      refine and_congr_left' ?_
      split
      · next found => simp [found, Schema.findings_eq_nil_iff member _ schema _]
      · next other => simp [other]

/-- Patterns have no findings if all members that match them are allowed. -/
theorem patternListFindings_eq_nil_iff (members : List (String × Json)) (place : Pointer) :
    (patterns : List (String × Pattern × Schema)) → (own : Pointer) →
      (patternListFindings members place patterns own = [] ↔
        ∀ entry ∈ patterns, ∀ member ∈ members, entry.2.1.isMatch member.1 →
          entry.2.2.allows member.2)
  | [], _ => by simp [patternListFindings]
  | (source, pattern, schema) :: rest, own => by
      rw [patternListFindings, List.append_eq_nil_iff, List.forall_mem_cons,
        patternListFindings_eq_nil_iff members place rest own, List.flatMap_eq_nil_iff]
      refine and_congr_left' (forall₂_congr fun member _ => ?_)
      dsimp only
      split
      · next found => simp [found, Schema.findings_eq_nil_iff member.2 _ schema _]
      · next other => simp [other]

end

/-- A schema of rules allows the values that keep them all. -/
theorem Schema.allows_rules (list : List Rule) (value : Json) :
    (Schema.rules list).allows value ↔ ∀ rule ∈ list, rule.Allows value := by
  rw [Schema.allows, List.isEmpty_iff, Schema.findings, ruleListFindings_eq_nil_iff]

/-- The schema for anything allows every value. -/
@[simp] theorem Schema.allows_anything (value : Json) : Schema.anything.allows value := by
  simp [Schema.allows, Schema.findings]

/-- No schema counts as valid if none allows the value. -/
theorem validCount_eq_zero_iff (value : Json) (schemas : List Schema) :
    validCount value schemas = 0 ↔ ∀ schema ∈ schemas, ¬schema.allows value := by
  induction schemas with
  | nil => simp [validCount]
  | cons schema rest ih =>
      rw [validCount, Nat.add_eq_zero_iff, ih, List.forall_mem_cons, Schema.allows]
      simp

/-- As many schemas allow a value as before if each of them does where it did. -/
theorem validCount_congr {value : Json} {schemas schemas' : List Schema}
    (same : List.Forall₂ (fun schema schema' => schema.allows value ↔ schema'.allows value)
      schemas schemas') : validCount value schemas = validCount value schemas' := by
  induction same with
  | nil => rfl
  | @cons schema schema' _ _ first _ ih =>
      have alike : schema.allows value = schema'.allows value := Bool.eq_iff_iff.mpr first
      rw [Schema.allows, Schema.allows] at alike
      rw [validCount, validCount, alike, ih]

namespace Rule

variable {value : Json}

theorem allows_types (allowed : List ValueType) :
    (types allowed).Allows value ↔ ∃ type ∈ allowed, type.includes value := by
  simp [Allows, findings, simpleCauses]

theorem allows_items (start : Nat) (schema : Schema) :
    (items start schema).Allows value ↔ ∀ item ∈ value.items.drop start, schema.allows item := by
  simp only [Allows, findings, List.flatMap_eq_nil_iff, Schema.findings_eq_nil_iff]
  exact forall_mem_numberedFrom (fun item => schema.allows item) start _

/-- The additional items have to be allowed. -/
theorem allows_moreItems (start : Nat) (schema : Schema) :
    (moreItems start schema).Allows value ↔
      ∀ item ∈ value.items.drop start, schema.allows item := by
  simp only [Allows, findings, List.flatMap_eq_nil_iff, Schema.findings_eq_nil_iff]
  exact forall_mem_numberedFrom (fun item => schema.allows item) start _

/-- Each item has to be allowed by the schema at its place. -/
theorem allows_tuple (keyword : String) (schemas : List Schema) :
    (tuple keyword schemas).Allows value ↔
      ∀ pair ∈ value.items.zip schemas, pair.2.allows pair.1 := by
  have unnumbered (start : Nat) (elements : List Json) :
      (∀ pair ∈ (numberedFrom start elements).zip schemas, pair.2.allows pair.1.2) ↔
        ∀ pair ∈ elements.zip schemas, pair.2.allows pair.1 := by
    induction elements generalizing start schemas with
    | nil => simp [numberedFrom]
    | cons item rest ih =>
        cases schemas with
        | nil => simp
        | cons schema others =>
            rw [numberedFrom, List.zip_cons_cons, List.zip_cons_cons, List.forall_mem_cons,
              List.forall_mem_cons, ih]
  simp only [Allows, findings, tupleFindings_eq_nil_iff]
  exact unnumbered 0 value.items

/-- A contained schema without limits has to allow some item of an array. -/
theorem allows_contains (schema : Schema) (evaluates : Bool) :
    (contains schema ⟨none, none, evaluates⟩).Allows value ↔
      ∀ elements, value = .array elements → ∃ item ∈ elements, schema.allows item := by
  simp only [Allows, findings]
  cases value with
  | array elements =>
      have counted : (elements.countP fun item => (schema.findings item .root .root).isEmpty) = 0 ↔
          ¬∃ item ∈ elements, schema.allows item := by
        simp [List.countP_eq_zero, Schema.allows]
      dsimp only [ContainedLimits.brokenAt?]
      by_cases none : (elements.countP fun item => (schema.findings item .root .root).isEmpty) = 0
      · simp [none, counted.mp none]
      · simp [none, not_not.mp (counted.not.mp none)]
  | _ => simp

/-- The members with schemas of their own have to be allowed. -/
theorem allows_properties (schemas : List (String × Schema)) :
    (properties schemas).Allows value ↔
      ∀ entry ∈ schemas, ∀ member, value.member? entry.1 = some member → entry.2.allows member := by
  simp only [Allows, findings, propertyFindings_eq_nil_iff]

/-- The members that match a pattern have to be allowed by its schema. -/
theorem allows_patternProperties (patterns : List (String × Pattern × Schema)) :
    (patternProperties patterns).Allows value ↔
      ∀ entry ∈ patterns, ∀ member ∈ value.members, entry.2.1.isMatch member.1 →
        entry.2.2.allows member.2 := by
  simp only [Allows, findings, patternListFindings_eq_nil_iff]

/-- The names of all members have to be allowed. -/
theorem allows_propertyNames (schema : Schema) :
    (propertyNames schema).Allows value ↔
      ∀ member ∈ value.members, schema.allows (.string member.1) := by
  simp only [Allows, findings, List.flatMap_eq_nil_iff, Schema.findings_eq_nil_iff]

/-- A value with the member has to be allowed. -/
theorem allows_schemaWith (keyword key : String) (schema : Schema) :
    (schemaWith keyword key schema).Allows value ↔
      ((value.member? key).isSome → schema.allows value) := by
  simp only [Allows, findings]
  split
  · next present => simp [present, Schema.findings_eq_nil_iff]
  · next absent => simp [absent]

theorem allows_allOf (schemas : List Schema) :
    (allOf schemas).Allows value ↔ ∀ schema ∈ schemas, schema.allows value := by
  simp only [Allows, findings, schemaListFindings_eq_nil_iff]

theorem allows_anyOf (schemas : List Schema) :
    (anyOf schemas).Allows value ↔ ∃ schema ∈ schemas, schema.allows value := by
  simp only [Allows, findings]
  split
  · next none =>
      rw [validCount_eq_zero_iff] at none
      simpa using none
  · next some =>
      rw [validCount_eq_zero_iff] at some
      simpa using some

/-- Exactly one schema has to count as valid. -/
theorem allows_oneOf (schemas : List Schema) :
    (oneOf schemas).Allows value ↔ validCount value schemas = 1 := by
  simp only [Allows, findings]
  split
  · next none => simp [none]
  · split
    · next single => simp [single]
    · next several => simp [several]

/-- The schema must not allow the value. -/
theorem allows_negation (source : Json) (schema : Schema) :
    (negation source schema).Allows value ↔ ¬schema.allows value := by
  simp only [Allows, findings, Schema.allows]
  split <;> simp_all

/-- What the condition allows has to be allowed by the one branch, and else by the other. -/
theorem allows_conditional (condition : Schema) (whenTrue whenFalse : Option Schema) :
    (conditional condition whenTrue whenFalse).Allows value ↔
      (condition.allows value → ∀ schema ∈ whenTrue, schema.allows value) ∧
        (¬condition.allows value → ∀ schema ∈ whenFalse, schema.allows value) := by
  simp only [Allows, findings, Schema.allows]
  split
  · next holds => simp [holds, optionalFindings_eq_nil_iff, Schema.allows]
  · next fails => simp [fails, optionalFindings_eq_nil_iff, Schema.allows]

/-- Whether a member of an object keeps the schemas for its name and the patterns it matches. -/
def CoversMember (schemas : List (String × Schema)) (patterns : List (String × Pattern × Schema))
    (member : String × Json) : Prop :=
  (∀ schema, schemas.lookup member.1 = some schema → schema.allows member.2) ∧
    ∀ entry ∈ patterns, entry.2.1.isMatch member.1 → entry.2.2.allows member.2

/-- Whether a key has a schema of its own, or matches a pattern. -/
def Names (schemas : List (String × Schema)) (patterns : List (String × Pattern × Schema))
    (key : String) : Bool :=
  (schemas.lookup key).isSome || patterns.any (·.2.1.isMatch key)

/-- What has no name is covered. -/
theorem coversMember_of_unnamed {schemas : List (String × Schema)}
    {patterns : List (String × Pattern × Schema)} {member : String × Json}
    (unnamed : Names schemas patterns member.1 = false) : CoversMember schemas patterns member := by
  rw [Names, Bool.or_eq_false_iff, List.any_eq_false] at unnamed
  refine ⟨fun schema found => ?_, fun entry inside matching => ?_⟩
  · rw [found] at unnamed
    cases unnamed.1
  · exact absurd matching (unnamed.2 entry inside)

/-- All members have to be named and allowed under their names. -/
theorem allows_closedProperties (schemas : List (String × Schema))
    (patterns : List (String × Pattern × Schema)) :
    (closedProperties schemas patterns).Allows value ↔
      ∀ member ∈ value.members, CoversMember schemas patterns member ∧
        Names schemas patterns member.1 := by
  have extra : (value.members.map (·.1)).filter (fun key =>
      (schemas.lookup key).isNone && !patterns.any (·.2.1.isMatch key)) = [] ↔
        ∀ member ∈ value.members, Names schemas patterns member.1 := by
    rw [List.filter_eq_nil_iff, List.forall_mem_map]
    refine forall₂_congr fun member _ => ?_
    rw [Names]
    cases schemas.lookup member.1 <;> simp
  rw [forall₂_and, ← extra]
  simp only [Allows, findings]
  split
  · next empty =>
      simp only [List.flatMap_eq_nil_iff, List.append_eq_nil_iff, namedFindings_getD_eq_nil_iff,
        patternFindings_eq_nil_iff]
      exact (and_iff_left (List.isEmpty_iff.mp empty)).symm
  · next present =>
      rw [List.isEmpty_iff] at present
      simp [present]

/-- Members have to be allowed under their names, or else by the schema for the others. -/
theorem allows_openProperties (schemas : List (String × Schema))
    (patterns : List (String × Pattern × Schema)) (other : Schema) :
    (openProperties schemas patterns other).Allows value ↔
      ∀ member ∈ value.members, CoversMember schemas patterns member ∧
        (Names schemas patterns member.1 = false → other.allows member.2) := by
  simp only [Allows, findings, List.flatMap_eq_nil_iff, namedFindings_isSome]
  refine forall₂_congr fun member _ => ?_
  split
  · next named =>
      simp only [List.append_eq_nil_iff, namedFindings_getD_eq_nil_iff, patternFindings_eq_nil_iff]
      have shown : Names schemas patterns member.1 = true := named
      simp [shown, CoversMember]
  · next unnamed =>
      have shown : Names schemas patterns member.1 = false := by
        rwa [Bool.not_eq_true] at unnamed
      simp [shown, coversMember_of_unnamed shown, Schema.findings_eq_nil_iff]

end Rule

end ApiContract
