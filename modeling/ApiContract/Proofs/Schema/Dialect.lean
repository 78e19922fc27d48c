import ApiContract.Proofs.Schema.Identified
import ApiContract.Schema.Dialect

/-
This file proves that leaving references in a schema keeps it fit for the schema of schemas. It is
the same at every depth, so the depth that a document asks for makes no difference.
-/

namespace ApiContract

namespace SchemaDialect

open Json

/-- Whether a schema allows a document with references left if another one allows the filled
document, up to some height. -/
def Carries (slot : Slot) (levels : Nat) (schema schema' : Schema) : Prop :=
  ∀ node node' : Json, Opens slot node node' → height node' ≤ levels → schema'.allows node' →
    schema.allows node

def CarriesRule (slot : Slot) (levels : Nat) (rule rule' : Rule) : Prop :=
  ∀ node node' : Json, Opens slot node node' → height node' ≤ levels → rule'.Allows node' →
    rule.Allows node

variable {slot : Slot} {levels : Nat} {inner inner' : Schema}

/-- A schema carries over if each of its rules does. -/
theorem carries_rules {list list' : List Rule}
    (each : List.Forall₂ (CarriesRule slot levels) list list') :
    Carries slot levels (.rules list) (.rules list') := by
  intro node node' opens low
  rw [Schema.allows_rules, Schema.allows_rules]
  induction each with
  | nil => simp
  | cons first _ ih =>
      rw [List.forall_mem_cons, List.forall_mem_cons]
      exact And.imp (first node node' opens low) ih

/-- Alternatives carry over if each of them does. -/
theorem carries_anyOf {schemas schemas' : List Schema}
    (each : List.Forall₂ (Carries slot levels) schemas schemas') :
    CarriesRule slot levels (.anyOf schemas) (.anyOf schemas') := by
  intro node node' opens low
  rw [Rule.allows_anyOf, Rule.allows_anyOf]
  induction each with
  | nil => simp
  | cons first _ ih =>
      rw [List.exists_mem_cons_iff, List.exists_mem_cons_iff]
      exact Or.imp (first node node' opens low) ih

/-- An item is lower than its array. -/
theorem height_item {items : List Json} {item : Json} (member : item ∈ items) :
    height item < height (.array items) := by
  have inside : height item ≤ itemsHeight items := by
    induction items with
    | nil => cases member
    | cons first rest ih =>
        rw [itemsHeight]
        rcases List.mem_cons.mp member with rfl | other
        · exact le_max_left _ _
        · exact (ih other).trans (le_max_right _ _)
  rw [height]
  omega

/-- The value of a member is lower than its object. -/
theorem height_member {members : List (String × Json)} {member : String × Json}
    (inside : member ∈ members) : height member.2 < height (.object members) := by
  have held : height member.2 ≤ membersHeight members := by
    induction members with
    | nil => cases inside
    | cons first rest ih =>
        rw [membersHeight]
        rcases List.mem_cons.mp inside with rfl | other
        · exact le_max_left _ _
        · exact (ih other).trans (le_max_right _ _)
  rw [height]
  omega

/-- A child is lower than its node. -/
theorem height_child {node child : Json} (inside : child ∈ node.children) :
    height child < height node := by
  cases node with
  | array items => exact height_item inside
  | object members =>
      obtain ⟨member, listed, rfl⟩ := List.mem_map.mp inside
      exact height_member listed
  | _ => cases inside

/-- What is asked of the items of a schema carries over. -/
theorem carries_items (below : Carries (.schema .inert) levels inner inner') :
    CarriesRule (.schema .inert) levels (.items 0 inner) (.items 0 inner') := by
  intro node node' opens low
  rw [Rule.allows_items, Rule.allows_items, List.drop_zero, List.drop_zero]
  intro all item member
  cases opens with
  | opened => cases member
  | plain _ _ noItems =>
      rw [noItems] at member
      cases member
  | array _ items items' same each =>
      obtain ⟨item', member', opens⟩ := exists_of_forall₂
        (Table.forall₂_of_getElem? same each) item member
      have lower := height_item member'
      exact below item item' opens (by omega) (all item' member')
  | object => cases member

/-- What is asked of the members of a table carries over. -/
theorem carries_members (own : Bool) (below : Carries (.schema .inert) levels inner inner') :
    CarriesRule (.table .inert own) levels (.openProperties [] [] inner)
      (.openProperties [] [] inner') := by
  intro node node' opens low
  rw [Rule.allows_openProperties, Rule.allows_openProperties]
  intro all member inside
  refine ⟨⟨nofun, nofun⟩, fun unnamed => ?_⟩
  rcases opens.members with rfl | members
  · cases inside
  · obtain ⟨member', inside', -, opened⟩ := exists_of_forall₂ members member inside
    have lower : height member'.2 < height node' := by
      cases node' with
      | object => exact height_member inside'
      | _ => cases inside'
    exact below member.2 member'.2 opened (by omega) ((all member' inside').2 rfl)

/-- To be an array carries over. -/
theorem carriesRule_types_array : CarriesRule slot levels (.types [.array]) (.types [.array]) := by
  intro node node' opens _ allowed
  rw [Rule.allows_types] at allowed ⊢
  cases opens with
  | opened _ _ _ shaped =>
      cases node' with
      | array => cases shaped
      | _ => simp [ValueType.includes] at allowed
  | plain => exact allowed
  | array => exact ⟨_, .head _, rfl⟩
  | object => simp [ValueType.includes] at allowed

/-- To be an object carries over. -/
theorem carriesRule_types_object :
    CarriesRule slot levels (.types [.object]) (.types [.object]) := by
  intro node node' opens _ allowed
  rw [Rule.allows_types] at allowed ⊢
  cases opens with
  | opened => exact ⟨_, .head _, rfl⟩
  | plain => exact allowed
  | array => simp [ValueType.includes] at allowed
  | object => exact ⟨_, .head _, rfl⟩

/-- To have enough items carries over. -/
theorem carriesRule_least_items (limit : Nat) :
    CarriesRule slot levels (.least .items limit) (.least .items limit) := by
  intro node node' opens _ allowed
  cases opens with
  | opened => rfl
  | plain => exact allowed
  | array _ items items' same =>
      simpa [Rule.Allows, Rule.findings, Rule.simpleCauses, Measure.of?, same] using allowed
  | object => rfl

/-- What is asked of names carries over. -/
theorem carriesRule_propertyNames (names : Schema) :
    CarriesRule slot levels (.propertyNames names) (.propertyNames names) := by
  intro node node' opens _ allowed
  rw [Rule.allows_propertyNames] at allowed ⊢
  intro member inside
  rcases opens.members with rfl | members
  · cases inside
  · obtain ⟨member', inside', same, -⟩ := exists_of_forall₂ members member inside
    rw [same]
    exact allowed member' inside'

/-- A schema for texts or numbers. -/
theorem carries_leaf {list : List Rule} {type : ValueType} (typed : .types [type] ∈ list)
    (leaf : type = .string ∨ type = .integer ∨ type = .number) :
    Carries slot levels (.rules list) (.rules list) := by
  intro node node' opens _ allowed
  obtain ⟨_, listed, included⟩ :=
    (Rule.allows_types [type]).mp ((Schema.allows_rules list node').mp allowed _ typed)
  obtain rfl := List.mem_singleton.mp listed
  have same : node = node' := by
    cases node' with
    | string => exact opens.eq_of_leaf rfl rfl
    | number => exact opens.eq_of_leaf rfl rfl
    | _ => rcases leaf with rfl | rfl | rfl <;> cases included
  rwa [same]

/-- A schema for truth values, in a place that is no reference. -/
theorem carries_flag (effect : Effect) : Carries (.table effect false) levels flag flag := by
  intro node node' opens _ allowed
  obtain ⟨_, listed, included⟩ :=
    (Rule.allows_types [.boolean]).mp ((Schema.allows_rules _ node').mp allowed _ (.head _))
  obtain rfl := List.mem_singleton.mp listed
  cases opens with
  | opened _ _ admits => cases admits
  | plain => exact allowed
  | array => cases included
  | object => cases included

/-- To be an array of texts carries over. -/
theorem carries_textArray : Carries slot levels textArray textArray := by
  intro node node' opens _ allowed
  have rules := (Schema.allows_rules _ node').mp allowed
  obtain ⟨_, listed, included⟩ := (Rule.allows_types [.array]).mp (rules _ (.tail _ (.head _)))
  obtain rfl := List.mem_singleton.mp listed
  have items := (Rule.allows_items 0 text).mp (rules _ (.head _))
  cases node' with
  | array items' =>
      have texts : ∀ item ∈ items', item.string?.isSome = true := by
        intro item member
        have held := (Schema.allows_rules _ item).mp (items item member) _ (.head _)
        obtain ⟨_, only, isText⟩ := (Rule.allows_types [.string]).mp held
        obtain rfl := List.mem_singleton.mp only
        cases item with
        | string => rfl
        | _ => cases isText
      rwa [opens.eq_of_texts texts]
  | _ => cases included

/-- The name of a type is a text. -/
theorem string?_of_typeName {node : Json} (allowed : typeName.allows node) :
    node.string?.isSome = true := by
  have listed := (Schema.allows_rules _ node).mp allowed _ (.head _)
  cases node with
  | string => rfl
  | _ => simp [Rule.Allows, Rule.findings, Rule.simpleCauses, sameValue, agree] at listed

/-- To name types carries over. -/
theorem carries_typeNames : Carries slot levels typeNames typeNames := by
  intro node node' opens _ allowed
  have held := (Rule.allows_anyOf _).mp ((Schema.allows_rules _ node').mp allowed _ (.head _))
  have same : node = node' := by
    cases node' with
    | string => exact opens.eq_of_leaf rfl rfl
    | array items' =>
        refine opens.eq_of_texts fun item member => ?_
        obtain ⟨schema, choice, allows⟩ := held
        rcases List.mem_pair.mp choice with rfl | rfl
        · cases string?_of_typeName allows
        · have items := (Schema.allows_rules _ _).mp allows _ (.head _)
          exact string?_of_typeName ((Rule.allows_items 0 typeName).mp items item member)
    | _ =>
        obtain ⟨schema, choice, allows⟩ := held
        rcases List.mem_pair.mp choice with rfl | rfl
        · cases string?_of_typeName allows
        · have typed := (Schema.allows_rules _ _).mp allows _ (.tail _ (.tail _ (.head _)))
          simp [Rule.allows_types, ValueType.includes] at typed
  rwa [same]

/-- To be any array carries over. -/
theorem carries_anyArray : Carries slot levels anyArray anyArray :=
  carries_rules (.cons carriesRule_types_array .nil)

/-- To be a list of schemas carries over. -/
theorem carries_list (below : Carries (.schema .inert) levels inner inner') :
    Carries (.schema .inert) levels (.rules [.items 0 inner, .least .items 1, .types [.array]])
      (.rules [.items 0 inner', .least .items 1, .types [.array]]) :=
  carries_rules (.cons (carries_items below) (.cons (carriesRule_least_items 1)
    (.cons carriesRule_types_array .nil)))

/-- To be a table of schemas carries over. -/
theorem carries_mapOf (own : Bool) (below : Carries (.schema .inert) levels inner inner') :
    Carries (.table .inert own) levels (mapOf inner) (mapOf inner') :=
  carries_rules (.cons (carries_members own below) (.cons carriesRule_types_object .nil))

/-- A choice of two schemas carries over if both do. -/
theorem carries_choice {first first' second second' : Schema}
    (one : Carries slot levels first first') (other : Carries slot levels second second') :
    Carries slot levels (.rules [.anyOf [first, second]]) (.rules [.anyOf [first', second']]) :=
  carries_rules (.cons (carries_anyOf (.cons one (.cons other .nil))) .nil)

/-- Each keyword of a schema of schemas carries over if the schema of schemas inside does. -/
theorem carries_keywords (keys : List String)
    (below : Carries (.schema .inert) levels inner inner') :
    List.Forall₂ (Table.SameKey fun keyword => Carries (Slot.ofKeyword .inert keys keyword) levels)
      (keywords inner) (keywords inner') := by
  have text (slot : Slot) : Carries slot levels text text :=
    carries_leaf (.head _) (.inl rfl)
  have formatted (slot : Slot) (name : String) :
      Carries slot levels (textOfFormat name) (textOfFormat name) :=
    carries_leaf (.tail _ (.head _)) (.inl rfl)
  have count (slot : Slot) : Carries slot levels count count :=
    carries_leaf (.tail _ (.head _)) (.inr (.inl rfl))
  have number (slot : Slot) : Carries slot levels number number :=
    carries_leaf (.head _) (.inr (.inr rfl))
  have list := carries_list below
  have table := carries_mapOf true below
  have items := carries_choice below list
  have dependencies := carries_mapOf true (carries_choice below carries_textArray)
  have patterns : Carries (.table .inert true) levels _ _ :=
    carries_rules (.cons (carries_members true below) (.cons (carriesRule_propertyNames
      (.rules [.format "regex" Pattern.isPattern])) (.cons carriesRule_types_object .nil)))
  have divisor : Carries .free levels (.rules [.bound .above (.integer 0), .types [.number]])
      (.rules [.bound .above (.integer 0), .types [.number]]) :=
    carries_leaf (.tail _ (.head _)) (.inr (.inr rfl))
  have pattern : Carries .free levels
      (.rules [.format "regex" Pattern.isPattern, .types [.string]])
      (.rules [.format "regex" Pattern.isPattern, .types [.string]]) :=
    carries_leaf (.tail _ (.head _)) (.inl rfl)
  simp only [keywords, List.forall₂_cons, List.forall₂_nil_left_iff, Table.SameKey, true_and, and_true,
    if_true, ite_self, Slot.ofKeyword, Slot.ofCondition_inert]
  exact ⟨text _, formatted _ _, formatted _ _, formatted _ _, below, below, list, list, below,
    text _, text _, table, dependencies, text _, below, carries_anyArray, carries_anyArray,
    number _, number _, text _, below, items, count _, count _, count _, number _, count _,
    count _, count _, number _, divisor, below, list, pattern, patterns, table, below,
    carries_flag .inert, carries_textArray, below, text _, carries_typeNames, carries_flag .inert⟩

/-- The keywords of a schema carry over to the schema with references left. -/
theorem carriesRule_properties {named named' : List (String × Schema)}
    (each : ∀ keys, List.Forall₂ (Table.SameKey fun keyword =>
      Carries (Slot.ofKeyword .inert keys keyword) levels) named named') :
    CarriesRule (.schema .inert) (levels + 1) (.properties named) (.properties named') := by
  intro node node' opens low
  rw [Rule.allows_properties, Rule.allows_properties]
  intro all entry listed member found
  rcases opens.members with rfl | members
  · cases found
  · obtain ⟨entry', listed', same, carries⟩ := exists_of_forall₂ (each _) entry listed
    have looked := Table.lookup_rel members entry.1
    rw [← member?_eq, ← member?_eq, found] at looked
    generalize present : node'.member? entry.1 = member' at looked
    cases looked with
    | @some _ member' opened =>
        have lower : height member' < height node' := by
          cases node' with
          | object => exact height_member (Table.mem_of_lookup _ _ _ present)
          | _ => cases present
        exact carries member member' opened (by omega) (all entry' listed' member' (same ▸ present))

/-- A document fits the schema of schemas, however deep that looks, if the filled document fits the
one that looks at all of it. -/
theorem carries_schema (depth depth' : Nat) :
    Carries (.schema .inert) depth' (schema depth) (schema depth') := by
  induction depth generalizing depth' with
  | zero => exact fun node _ _ _ _ => Schema.allows_anything node
  | succ depth ih =>
      intro node node' opens low
      obtain ⟨depth', rfl⟩ : ∃ other, depth' = other + 1 :=
        ⟨depth' - 1, by have := one_le_height node'; omega⟩
      have typed : CarriesRule (.schema .inert) (depth' + 1) (.types [.boolean, .object])
          (.types [.boolean, .object]) := by
        intro node node' opens _ allowed
        rw [Rule.allows_types] at allowed ⊢
        cases opens with
        | opened => exact ⟨.object, .tail _ (.head _), rfl⟩
        | plain => exact allowed
        | array => simp [ValueType.includes] at allowed
        | object => exact ⟨.object, .tail _ (.head _), rfl⟩
      have members := carriesRule_properties fun keys => carries_keywords keys (ih depth')
      exact carries_rules (.cons members (.cons typed .nil)) node node' opens low

/-- A document fits the schema of schemas if that schema allows it. -/
theorem firstCause?_eq_none_iff (document : Json) :
    firstCause? document = none ↔ (schema (height document)).allows document := by
  rw [firstCause?, Option.map_eq_none_iff, List.head?_eq_none_iff, Schema.findings_eq_nil_iff]

/-- A document with references left is fit to be a schema if the filled one is. -/
theorem firstCause?_of_opens {effect : Effect} {node node' : Json}
    (opens : Opens (.schema effect) node node') (sound : firstCause? node' = none) :
    firstCause? node = none := by
  rw [firstCause?_eq_none_iff] at sound ⊢
  exact carries_schema _ _ node node' (opens.narrow (.schema effect)) (le_refl _) sound

end SchemaDialect

end ApiContract
