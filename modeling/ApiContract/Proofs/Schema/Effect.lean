import ApiContract.Proofs.Json.Forest
import ApiContract.Proofs.Schema.Allowed

/-
This file says what a change inside a schema does to the values that it allows. Below most keywords
the change has the effect that it has at its own place; below a negation it has the opposite one.
Where a keyword counts the schemas that allow a value, or asks a schema for two purposes, only a
change that makes no difference at its own place has a known effect.
-/

namespace ApiContract

/-- What a change does: it may let more values through, or fewer, or it has to keep them as they are,
or it is of no concern. -/
inductive Effect where
  | loosens
  | tightens
  | keeps
  | inert
  deriving DecidableEq, Repr

namespace Effect

/-- The effect of a change below a negation. -/
def flip : Effect → Effect
  | loosens => tightens
  | tightens => loosens
  | keeps => keeps
  | inert => inert

/-- The effect of a change that no schema around it may see. -/
def still : Effect → Effect
  | inert => inert
  | _ => keeps

/-- Whether a reference may be left at a place itself. What is left allows every value. -/
def admits : Effect → Bool
  | loosens => true
  | tightens => false
  | keeps => false
  | inert => true

/-- Below two negations a change has its own effect. -/
@[simp] theorem flip_flip (effect : Effect) : effect.flip.flip = effect := by
  cases effect <;> rfl

/-- Below a negation a change of any concern is still of concern. -/
theorem flip_ne_inert {effect : Effect} (working : effect ≠ inert) : effect.flip ≠ inert := by
  cases effect with
  | inert => contradiction
  | _ => decide

/-- A change of any concern becomes one that has to keep the values. -/
theorem still_of_working {effect : Effect} (working : effect ≠ inert) : effect.still = keeps := by
  cases effect with
  | inert => contradiction
  | _ => rfl

/-- Where a change is of any concern, a reference is left only if that loosens the schema. -/
theorem admits_iff {effect : Effect} (working : effect ≠ inert) :
    effect.admits = true ↔ effect = loosens := by
  cases effect with
  | inert => contradiction
  | _ => decide

/-- What an effect says of a condition before and after a change. -/
def Implies : Effect → Prop → Prop → Prop
  | loosens, after, before => before → after
  | tightens, after, before => after → before
  | keeps, after, before => after ↔ before
  | inert, _, _ => True

variable {effect : Effect}

/-- What stays as it is has any effect. -/
theorem implies_refl (effect : Effect) (condition : Prop) : effect.Implies condition condition := by
  cases effect with
  | keeps => exact Iff.rfl
  | inert => trivial
  | _ => exact id

/-- What stays equivalent has any effect. -/
theorem implies_of_iff {after before : Prop} (effect : Effect) (same : after ↔ before) :
    effect.Implies after before := by
  rw [propext same]
  exact effect.implies_refl before

/-- What has an effect on each choice has it on all together. -/
theorem implies_forall {α : Sort*} {after before : α → Prop}
    (each : ∀ choice, effect.Implies (after choice) (before choice)) :
    effect.Implies (∀ choice, after choice) (∀ choice, before choice) := by
  cases effect with
  | loosens => exact fun all choice => each choice (all choice)
  | tightens => exact fun all choice => each choice (all choice)
  | keeps => exact forall_congr' each
  | inert => trivial

/-- What has an effect on both parts has it on their conjunction. -/
theorem implies_and {after before after' before' : Prop} (first : effect.Implies after before)
    (second : effect.Implies after' before') :
    effect.Implies (after ∧ after') (before ∧ before') := by
  cases effect with
  | keeps => exact and_congr first second
  | inert => trivial
  | _ => exact And.imp first second

/-- Below a negation the effect is the opposite one. -/
theorem implies_not {after before : Prop} (below : effect.flip.Implies after before) :
    effect.Implies (¬after) (¬before) := by
  cases effect with
  | keeps => exact not_congr below
  | inert => trivial
  | _ => exact mt below

/-- The premise of a condition is below a negation. -/
theorem implies_imp {after before after' before' : Prop}
    (premise : effect.flip.Implies after before) (conclusion : effect.Implies after' before') :
    effect.Implies (after → after') (before → before') := by
  cases effect with
  | loosens => exact fun holds given => conclusion (holds (premise given))
  | tightens => exact fun holds given => conclusion (holds (premise given))
  | keeps => exact imp_congr premise conclusion
  | inert => trivial

/-- Conditions on the items of two lists have their effect on all together. -/
theorem implies_forall_mem {α : Type} {after before : α → Prop} {list list' : List α}
    (each : List.Forall₂ (fun choice choice' => effect.Implies (after choice) (before choice'))
      list list') :
    effect.Implies (∀ choice ∈ list, after choice) (∀ choice ∈ list', before choice) := by
  induction each with
  | nil => exact effect.implies_of_iff (by simp)
  | cons first _ ih =>
      rw [List.forall_mem_cons, List.forall_mem_cons]
      exact implies_and first ih

/-- Conditions on the items of two lists have their effect on some item. -/
theorem implies_exists_mem {α : Type} {after before : α → Prop} {list list' : List α}
    (each : List.Forall₂ (fun choice choice' => effect.Implies (after choice) (before choice'))
      list list') :
    effect.Implies (∃ choice ∈ list, after choice) (∃ choice ∈ list', before choice) := by
  induction each with
  | nil => exact effect.implies_of_iff (by simp)
  | cons first _ ih =>
      rw [List.exists_mem_cons_iff, List.exists_mem_cons_iff]
      cases effect with
      | keeps => exact or_congr first ih
      | inert => trivial
      | _ => exact Or.imp first ih

/-- What an effect says of the schemas before and after a change. -/
def Relates (effect : Effect) (after before : Schema) : Prop :=
  ∀ value : Json, value.Sorted → effect.Implies (after.allows value) (before.allows value)

/-- What an effect says of rules before and after a change. -/
def RelatesRule (effect : Effect) (after before : Rule) : Prop :=
  ∀ value : Json, value.Sorted → effect.Implies (after.Allows value) (before.Allows value)

/-- What an effect says of lists of rules before and after a change. -/
def RelatesRules (effect : Effect) (after before : List Rule) : Prop :=
  effect.Relates (.rules after) (.rules before)

theorem relates_refl (effect : Effect) (schema : Schema) : effect.Relates schema schema :=
  fun _ _ => effect.implies_refl _

theorem relatesRule_refl (effect : Effect) (rule : Rule) : effect.RelatesRule rule rule :=
  fun _ _ => effect.implies_refl _

/-- Rules have the effect that each of them has. -/
theorem relatesRules_of_forall₂ {rules rules' : List Rule}
    (each : List.Forall₂ effect.RelatesRule rules rules') : effect.RelatesRules rules rules' := by
  intro value sorted
  rw [Schema.allows_rules, Schema.allows_rules]
  exact implies_forall_mem (each.imp fun _ _ related => related value sorted)

/-- Schemas by name, where a change keeps the names. -/
def RelatesNamed (effect : Effect) : String × Schema → String × Schema → Prop :=
  Table.SameKey fun _ => effect.Relates

/-- Schemas by pattern, where a change keeps the patterns. -/
def RelatesPattern (effect : Effect) (after before : String × Pattern × Schema) : Prop :=
  after.2.1 = before.2.1 ∧ effect.Relates after.2.2 before.2.2

variable {schema schema' : Schema} {schemas schemas' : List Schema}
variable {named named' : List (String × Schema)}
variable {patterns patterns' : List (String × Pattern × Schema)}

/-- A schema for items passes its effect on. -/
theorem relates_items (start : Nat) (related : effect.Relates schema schema') :
    effect.RelatesRule (.items start schema) (.items start schema') := by
  intro value sorted
  rw [Rule.allows_items, Rule.allows_items]
  exact implies_forall fun item => implies_forall fun member =>
    related item (sorted.item (List.mem_of_mem_drop member))

/-- A schema for additional items passes its effect on. -/
theorem relates_moreItems (start : Nat) (related : effect.Relates schema schema') :
    effect.RelatesRule (.moreItems start schema) (.moreItems start schema') := by
  intro value sorted
  rw [Rule.allows_moreItems, Rule.allows_moreItems]
  exact implies_forall fun item => implies_forall fun member =>
    related item (sorted.item (List.mem_of_mem_drop member))

/-- The schemas of a tuple pass their effect on. -/
theorem relates_tuple (keyword : String) (related : List.Forall₂ effect.Relates schemas schemas') :
    effect.RelatesRule (.tuple keyword schemas) (.tuple keyword schemas') := by
  intro value sorted
  rw [Rule.allows_tuple, Rule.allows_tuple]
  have inside : ∀ item ∈ value.items, item.Sorted := fun item => sorted.item
  generalize value.items = items at inside
  apply implies_forall_mem
  induction related generalizing items with
  | nil => simp
  | cons first _ ih =>
      cases items with
      | nil => exact .nil
      | cons item rest =>
          obtain ⟨own, others⟩ := List.forall_mem_cons.mp inside
          exact .cons (first item own) (ih rest others)

/-- A schema for some item passes its effect on. -/
theorem relates_contains (evaluates : Bool) (related : effect.Relates schema schema') :
    effect.RelatesRule (.contains schema ⟨none, none, evaluates⟩)
      (.contains schema' ⟨none, none, evaluates⟩) := by
  intro value sorted
  rw [Rule.allows_contains, Rule.allows_contains]
  refine implies_forall fun elements => implies_forall fun same => implies_exists_mem ?_
  subst same
  exact List.forall₂_same.mpr fun item member => related item (sorted.item member)

/-- Schemas of properties pass their effect on. -/
theorem relates_properties (related : List.Forall₂ effect.RelatesNamed named named') :
    effect.RelatesRule (.properties named) (.properties named') := by
  intro value sorted
  rw [Rule.allows_properties, Rule.allows_properties]
  refine implies_forall_mem (related.imp fun entry entry' same => ?_)
  rw [same.1]
  exact implies_forall fun member => implies_forall fun found =>
    same.2 member (sorted.member? found)

/-- Schemas of patterns pass their effect on. -/
theorem relates_patternProperties
    (related : List.Forall₂ effect.RelatesPattern patterns patterns') :
    effect.RelatesRule (.patternProperties patterns) (.patternProperties patterns') := by
  intro value sorted
  rw [Rule.allows_patternProperties, Rule.allows_patternProperties]
  refine implies_forall_mem (related.imp fun entry entry' same => ?_)
  rw [same.1]
  exact implies_forall fun member => implies_forall fun inside => implies_forall fun _ =>
    same.2 member.2 (sorted.value inside)

/-- A schema for names passes its effect on. -/
theorem relates_propertyNames (related : effect.Relates schema schema') :
    effect.RelatesRule (.propertyNames schema) (.propertyNames schema') := by
  intro value _
  rw [Rule.allows_propertyNames, Rule.allows_propertyNames]
  exact implies_forall fun member => implies_forall fun _ => related _ (Json.sorted_string _)

/-- A schema for values with a member passes its effect on. -/
theorem relates_schemaWith (keyword key : String) (related : effect.Relates schema schema') :
    effect.RelatesRule (.schemaWith keyword key schema) (.schemaWith keyword key schema') := by
  intro value sorted
  rw [Rule.allows_schemaWith, Rule.allows_schemaWith]
  exact implies_forall fun _ => related value sorted

/-- Schemas that all have to allow a value pass their effect on. -/
theorem relates_allOf (related : List.Forall₂ effect.Relates schemas schemas') :
    effect.RelatesRule (.allOf schemas) (.allOf schemas') := by
  intro value sorted
  rw [Rule.allows_allOf, Rule.allows_allOf]
  exact implies_forall_mem (related.imp fun _ _ each => each value sorted)

/-- Schemas of which some has to allow a value pass their effect on. -/
theorem relates_anyOf (related : List.Forall₂ effect.Relates schemas schemas') :
    effect.RelatesRule (.anyOf schemas) (.anyOf schemas') := by
  intro value sorted
  rw [Rule.allows_anyOf, Rule.allows_anyOf]
  exact implies_exists_mem (related.imp fun _ _ each => each value sorted)

/-- To count the schemas that allow a value, each of them has to stay as strict as it is. -/
theorem relates_oneOf (related : List.Forall₂ keeps.Relates schemas schemas') :
    effect.RelatesRule (.oneOf schemas) (.oneOf schemas') := by
  intro value sorted
  rw [Rule.allows_oneOf, Rule.allows_oneOf]
  refine effect.implies_of_iff (Eq.congr_left ?_)
  exact validCount_congr (related.imp fun _ _ each => each value sorted)

/-- A schema below a negation passes the opposite effect on. -/
theorem relates_negation (source source' : Json) (related : effect.flip.Relates schema schema') :
    effect.RelatesRule (.negation source schema) (.negation source' schema') := by
  intro value sorted
  rw [Rule.allows_negation, Rule.allows_negation]
  exact implies_not (related value sorted)

/-- A schema that may be absent passes its effect on. -/
theorem implies_optional {schema schema' : Option Schema} (value : Json) (sorted : value.Sorted)
    (related : Option.Rel effect.Relates schema schema') :
    effect.Implies (∀ given ∈ schema, given.allows value)
      (∀ given ∈ schema', given.allows value) := by
  cases related with
  | none => exact effect.implies_refl _
  | some related => simpa using related value sorted

/-- A condition with one branch: before the branch for success it is a premise, before the other one
a negated premise. -/
theorem relates_whenTrue {branch branch' : Option Schema}
    (related : effect.flip.Relates schema schema')
    (below : Option.Rel effect.Relates branch branch') :
    effect.RelatesRule (.conditional schema branch none) (.conditional schema' branch' none) := by
  intro value sorted
  rw [Rule.allows_conditional, Rule.allows_conditional]
  exact implies_and (implies_imp (related value sorted) (implies_optional value sorted below))
    (effect.implies_of_iff (by simp))

/-- The branch for failure stands below two negations of the condition. -/
theorem relates_whenFalse {branch branch' : Option Schema} (related : effect.Relates schema schema')
    (below : Option.Rel effect.Relates branch branch') :
    effect.RelatesRule (.conditional schema none branch) (.conditional schema' none branch') := by
  intro value sorted
  rw [Rule.allows_conditional, Rule.allows_conditional]
  refine implies_and (effect.implies_of_iff (by simp)) (implies_imp (implies_not ?_)
    (implies_optional value sorted below))
  rw [flip_flip]
  exact related value sorted

/-- A condition with both branches has to stay as strict as it is. -/
theorem relates_branches {whenTrue whenTrue' whenFalse whenFalse' : Option Schema}
    (related : keeps.Relates schema schema')
    (first : Option.Rel effect.Relates whenTrue whenTrue')
    (second : Option.Rel effect.Relates whenFalse whenFalse') :
    effect.RelatesRule (.conditional schema whenTrue whenFalse)
      (.conditional schema' whenTrue' whenFalse') := by
  intro value sorted
  have same : schema.allows value ↔ schema'.allows value := related value sorted
  rw [Rule.allows_conditional, Rule.allows_conditional]
  exact implies_and
    (implies_imp (effect.flip.implies_of_iff same) (implies_optional value sorted first))
    (implies_imp (effect.flip.implies_of_iff (not_congr same))
      (implies_optional value sorted second))

/-- Keys are named alike as long as names and patterns stay. -/
theorem names_congr (related : List.Forall₂ effect.RelatesNamed named named')
    (related' : List.Forall₂ effect.RelatesPattern patterns patterns') (key : String) :
    Rule.Names named patterns key = Rule.Names named' patterns' key := by
  have known : (named.lookup key).isSome = (named'.lookup key).isSome := by
    have lookup := Table.lookup_rel related key
    generalize named.lookup key = found, named'.lookup key = found' at lookup ⊢
    cases lookup <;> rfl
  have matching : patterns.any (·.2.1.isMatch key) = patterns'.any (·.2.1.isMatch key) := by
    induction related' with
    | nil => rfl
    | cons first _ ih => rw [List.any_cons, List.any_cons, first.1, ih]
  rw [Rule.Names, Rule.Names, known, matching]

/-- Covering a member has the effect of the schemas that cover it. -/
theorem implies_coversMember (related : List.Forall₂ effect.RelatesNamed named named')
    (related' : List.Forall₂ effect.RelatesPattern patterns patterns') (member : String × Json)
    (sorted : member.2.Sorted) :
    effect.Implies (Rule.CoversMember named patterns member)
      (Rule.CoversMember named' patterns' member) := by
  refine implies_and ?_ (implies_forall_mem (related'.imp fun entry entry' same => ?_))
  · have lookup := Table.lookup_rel related member.1
    generalize named.lookup member.1 = found, named'.lookup member.1 = found' at lookup ⊢
    cases lookup with
    | none => exact effect.implies_of_iff (by simp)
    | some same => simpa using same member.2 sorted
  · rw [same.1]
    exact implies_forall fun _ => same.2 member.2 sorted

/-- Where other members are refused, the named schemas pass their effect on. -/
theorem relates_closedProperties (related : List.Forall₂ effect.RelatesNamed named named')
    (related' : List.Forall₂ effect.RelatesPattern patterns patterns') :
    effect.RelatesRule (.closedProperties named patterns) (.closedProperties named' patterns') := by
  intro value sorted
  rw [Rule.allows_closedProperties, Rule.allows_closedProperties]
  refine implies_forall fun member => implies_forall fun inside => ?_
  rw [names_congr related related']
  exact implies_and (implies_coversMember related related' member (sorted.value inside))
    (effect.implies_refl _)

/-- Where other members have a schema, all schemas pass their effect on. -/
theorem relates_openProperties (related : List.Forall₂ effect.RelatesNamed named named')
    (related' : List.Forall₂ effect.RelatesPattern patterns patterns')
    (other : effect.Relates schema schema') :
    effect.RelatesRule (.openProperties named patterns schema)
      (.openProperties named' patterns' schema') := by
  intro value sorted
  rw [Rule.allows_openProperties, Rule.allows_openProperties]
  refine implies_forall fun member => implies_forall fun inside => ?_
  rw [names_congr related related']
  exact implies_and (implies_coversMember related related' member (sorted.value inside))
    (implies_forall fun _ => other member.2 (sorted.value inside))

end Effect

end ApiContract
