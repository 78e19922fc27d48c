import ApiContract.Check
import ApiContract.Proofs.Schema.Effect

/-
This file says what it means to put schemas in the place of the references of a schema, and where the
references may stand so that the effect of leaving them is known. Without references, the schema that
is left and the schema that is filled differ where the one is empty.
-/

namespace ApiContract

/-- What stands at a place: a schema or an array of them, an object of schemas, something fixed, or
something that means nothing. -/
inductive Slot where
  | schema (effect : Effect)
  | table (effect : Effect) (own : Bool)
  | fixed
  | free
  deriving DecidableEq, Repr

namespace Slot

/-- Whether a reference may stand at a place itself. -/
def admits : Slot → Bool
  | schema effect => effect.admits
  | table _ own => own
  | fixed => false
  | free => true

/-- The keywords of a schema that its other keywords read. `items` is read where it lists schemas. -/
def neighbours (members : List (String × Json)) : List String :=
  (members.filter fun member => member.1 != "items" || member.2.array?.isSome).map (·.1)

/-- The place of a condition. It is a premise of the one branch and a negated premise of the
other. -/
def ofCondition (effect : Effect) (hasTrue hasFalse : Bool) : Slot :=
  schema <| match hasTrue, hasFalse with
    | true, true => effect.still
    | true, false => effect.flip
    | false, true => effect
    | false, false => .inert

/-- The place of the value of a keyword beside some others. -/
def ofKeyword (effect : Effect) (keys : List String) (keyword : String) : Slot :=
  match keyword with
  | "additionalProperties" | "allOf" | "anyOf" | "contains" | "items" | "propertyNames" =>
      schema effect
  | "additionalItems" => schema (if keys.contains "items" then effect else .inert)
  | "not" => schema effect.flip
  | "oneOf" => schema effect.still
  | "if" => ofCondition effect (keys.contains "then") (keys.contains "else")
  | "else" | "then" => schema (if keys.contains "if" then effect else .inert)
  | "const" | "enum" => if effect = .inert then free else fixed
  | "patternProperties" | "properties" =>
      table effect
        (effect == .inert || effect == .loosens && !keys.contains "additionalProperties")
  | "dependencies" => table effect effect.admits
  | "definitions" => table .inert true
  | "readOnly" | "uniqueItems" => table .inert false
  | _ => free

/-- The place of the items of an array. -/
def item : Slot → Slot
  | table _ _ => free
  | other => other

/-- The place of a member of an object with some keys. -/
def member (slot : Slot) (keys : List String) (key : String) : Slot :=
  match slot with
  | schema effect => ofKeyword effect keys key
  | table effect _ => schema effect
  | other => other

/-- Whether one place is as strict as another. -/
inductive Narrows : Slot → Slot → Prop where
  | same (slot : Slot) : Narrows slot slot
  | fixed (slot : Slot) : Narrows fixed slot
  | free (slot : Slot) : Narrows slot free
  | schema (effect : Effect) : Narrows (schema effect) (schema .inert)
  | table (effect : Effect) (own own' : Bool) (weaker : own = true → own' = true) :
      Narrows (table effect own) (table .inert own')

variable {slot slot' : Slot}

/-- A place that is less strict admits what the other one does. -/
theorem Narrows.admits (narrows : Narrows slot slot') (held : slot.admits = true) :
    slot'.admits = true := by
  cases narrows with
  | same => exact held
  | fixed => cases held
  | free => rfl
  | schema => rfl
  | table _ _ _ weaker => exact weaker held

/-- The items of a place that is less strict are so too. -/
theorem Narrows.item (narrows : Narrows slot slot') : Narrows slot.item slot'.item := by
  cases narrows with
  | same => exact .same _
  | fixed => exact .fixed _
  | free => exact .free _
  | schema effect => exact .schema effect
  | table => exact .same _

/-- Where a change is of no concern, it is of none in a condition. -/
theorem ofCondition_inert (hasTrue hasFalse : Bool) :
    ofCondition .inert hasTrue hasFalse = schema .inert := by
  cases hasTrue <;> cases hasFalse <;> rfl

/-- The place of a keyword is no stricter where a change is of no concern. -/
theorem narrows_ofKeyword (effect : Effect) (keys : List String) (keyword : String) :
    Narrows (ofKeyword effect keys keyword) (ofKeyword .inert keys keyword) := by
  unfold ofKeyword
  simp only [ite_self, ofCondition_inert]
  split <;> first
    | exact .schema _
    | exact .table _ _ _ fun _ => rfl
    | exact .same _
    | (cases effect <;> constructor)

/-- The members of a place that is less strict are so too. -/
theorem Narrows.member (narrows : Narrows slot slot') (keys : List String) (key : String) :
    Narrows (slot.member keys key) (slot'.member keys key) := by
  cases narrows with
  | same => exact .same _
  | fixed => exact .fixed _
  | free => exact .free _
  | schema effect => exact narrows_ofKeyword effect keys key
  | table effect => exact .schema effect

end Slot

namespace Json

/-- Whether a value has the form of a schema. -/
def isSchema : Json → Bool
  | bool _ => true
  | object _ => true
  | _ => false

mutual

/-- Whether all references of a document stand where they may. -/
def placed (slot : Slot) (node : Json) : Bool :=
  if node.reference?.isSome then slot.admits
  else
    match node with
    | array items => placedItems slot.item items
    | object members => placedMembers slot (Slot.neighbours members) members
    | _ => true

def placedItems (slot : Slot) : List Json → Bool
  | [] => true
  | item :: rest => placed slot item && placedItems slot rest

def placedMembers (slot : Slot) (keys : List String) : List (String × Json) → Bool
  | [] => true
  | (key, value) :: rest =>
      placed (slot.member keys key) value && placedMembers slot keys rest

end

/-- Whether a document comes from another by putting a schema in the place of each outermost
reference. -/
inductive Fills : Json → Json → Prop where
  | filled (node filler : Json) (text : String) (schema : Schema)
      (refers : node.reference? = some text) (formed : Schema.ofDocument filler = .ok schema) :
      Fills node filler
  | plain (node : Json) (noItems : node.items = []) (noMembers : node.members = []) :
      Fills node node
  | array (items items' : List Json) (same : items'.length = items.length)
      (each : ∀ (index : Nat) (item item' : Json), items[index]? = some item →
        items'[index]? = some item' → Fills item item') : Fills (array items) (array items')
  | object (members members' : List (String × Json))
      (concrete : (object members).reference? = none)
      (keys : members'.map (·.1) = members.map (·.1))
      (each : ∀ (index : Nat) (member member' : String × Json), members[index]? = some member →
        members'[index]? = some member' → Fills member.2 member'.2) :
      Fills (object members) (object members')

/-- Whether a document is another one with empty schemas in some places that allow it. -/
inductive Opens : Slot → Json → Json → Prop where
  | opened (slot : Slot) (filler : Json) (admits : slot.admits = true)
      (shaped : filler.isSchema = true) : Opens slot (object []) filler
  | plain (slot : Slot) (node : Json) (noItems : node.items = []) (noMembers : node.members = []) :
      Opens slot node node
  | array (slot : Slot) (items items' : List Json) (same : items'.length = items.length)
      (each : ∀ (index : Nat) (item item' : Json), items[index]? = some item →
        items'[index]? = some item' → Opens slot.item item item') :
      Opens slot (array items) (array items')
  | object (slot : Slot) (members members' : List (String × Json))
      (keys : members'.map (·.1) = members.map (·.1))
      (each : ∀ (index : Nat) (member member' : String × Json), members[index]? = some member →
        members'[index]? = some member' →
          Opens (slot.member (Slot.neighbours members) member.1) member.2 member'.2) :
      Opens slot (object members) (object members')

theorem stripItems_eq (items : List Json) : stripItems items = items.map stripReferences := by
  induction items with
  | nil => rw [stripItems, List.map_nil]
  | cons item rest ih => rw [stripItems, ih, List.map_cons]

theorem stripMembers_eq (members : List (String × Json)) :
    stripMembers members = members.map fun member => (member.1, member.2.stripReferences) := by
  induction members with
  | nil => rw [stripMembers, List.map_nil]
  | cons member rest ih => rw [stripMembers, ih, List.map_cons]

/-- Items are placed if each of them is. -/
theorem placedItems_iff (slot : Slot) (items : List Json) :
    placedItems slot items = true ↔ ∀ item ∈ items, item.placed slot = true := by
  induction items with
  | nil => simp [placedItems]
  | cons item rest ih => rw [placedItems, Bool.and_eq_true, ih, List.forall_mem_cons]

/-- Members are placed if each of their values is. -/
theorem placedMembers_iff (slot : Slot) (keys : List String) (members : List (String × Json)) :
    placedMembers slot keys members = true ↔
      ∀ member ∈ members, member.2.placed (slot.member keys member.1) = true := by
  induction members with
  | nil => simp [placedMembers]
  | cons member rest ih => rw [placedMembers, Bool.and_eq_true, ih, List.forall_mem_cons]

mutual

/-- A document without references has nothing to lose. -/
theorem stripReferences_of_hasReference : (node : Json) → node.hasReference = false →
    node.stripReferences = node
  | array items, bare => by
      rw [hasReference.eq_def, Bool.or_eq_false_iff] at bare
      rw [stripReferences.eq_def, bare.1, if_neg Bool.false_ne_true]
      exact congrArg array (stripItems_of_hasReference items bare.2)
  | object members, bare => by
      rw [hasReference.eq_def, Bool.or_eq_false_iff] at bare
      rw [stripReferences.eq_def, bare.1, if_neg Bool.false_ne_true]
      exact congrArg object (stripMembers_of_hasReference members bare.2)
  | null, _ => rfl
  | bool _, _ => rfl
  | number _, _ => rfl
  | string _, _ => rfl

/-- Items without references have nothing to lose. -/
theorem stripItems_of_hasReference : (items : List Json) → anyItemHasReference items = false →
    stripItems items = items
  | [], _ => rfl
  | item :: rest, bare => by
      rw [anyItemHasReference, Bool.or_eq_false_iff] at bare
      rw [stripItems, stripReferences_of_hasReference item bare.1,
        stripItems_of_hasReference rest bare.2]

/-- Members without references have nothing to lose. -/
theorem stripMembers_of_hasReference : (members : List (String × Json)) →
    anyMemberHasReference members = false → stripMembers members = members
  | [], _ => rfl
  | (key, value) :: rest, bare => by
      rw [anyMemberHasReference, Bool.or_eq_false_iff] at bare
      rw [stripMembers, stripReferences_of_hasReference value bare.1,
        stripMembers_of_hasReference rest bare.2]

end

/-- Leaving the references away is stripping them. -/
theorem withoutReferences_eq (document : Json) :
    document.withoutReferences = document.stripReferences := by
  rw [withoutReferences]
  split
  · rfl
  · next none =>
      exact (stripReferences_of_hasReference document ((Bool.not_eq_true _).mp none)).symm

/-- A reference is stripped to an empty schema. -/
theorem stripReferences_reference {node : Json} {text : String}
    (refers : node.reference? = some text) : node.stripReferences = object [] := by
  rw [stripReferences.eq_def, refers]
  rfl

/-- An array is stripped item by item. -/
theorem stripReferences_array (items : List Json) :
    (array items).stripReferences = array (items.map stripReferences) := by
  rw [← stripItems_eq]
  rfl

/-- A concrete object is stripped value by value. -/
theorem stripReferences_object {members : List (String × Json)}
    (concrete : (object members).reference? = none) : (object members).stripReferences =
      object (members.map fun member => (member.1, member.2.stripReferences)) := by
  rw [stripReferences.eq_def, concrete, ← stripMembers_eq]
  rfl

/-- What holds nothing has nothing to be stripped of. -/
theorem stripReferences_plain (node : Json) (noItems : node.items = [])
    (noMembers : node.members = []) : node.stripReferences = node := by
  cases node with
  | array items =>
      cases noItems
      rfl
  | object members =>
      cases noMembers
      rfl
  | _ => rfl

/-- Stripping makes no text and takes none away. -/
theorem string?_stripReferences (node : Json) : node.stripReferences.string? = node.string? := by
  rw [stripReferences.eq_def]
  split
  · next refers =>
      cases node with
      | string => cases refers
      | _ => rfl
  · cases node <;> rfl

/-- Stripping makes no array and takes none away. -/
theorem isSome_array?_stripReferences (node : Json) :
    node.stripReferences.array?.isSome = node.array?.isSome := by
  rw [stripReferences.eq_def]
  split
  · next refers =>
      cases node with
      | array => cases refers
      | _ => rfl
  · cases node <;> rfl

/-- A schema without its references has the neighbours that it had. -/
theorem neighbours_stripReferences (members : List (String × Json)) :
    Slot.neighbours (members.map fun member => (member.1, member.2.stripReferences)) =
      Slot.neighbours members := by
  rw [Slot.neighbours, Slot.neighbours, List.filter_map, List.map_map]
  refine congrArg (List.map Prod.fst) (List.filter_congr fun member _ => ?_)
  rw [Function.comp_apply, isSome_array?_stripReferences]

end Json

/-- What is a schema has the form of one, whatever it refers to. -/
theorem Schema.isSchema_of_ofDocument {document : Json} {schema : Schema}
    (formed : Schema.ofDocument document = .ok schema) :
    document.stripReferences.isSchema = true := by
  unfold Schema.ofDocument at formed
  rw [document.withoutReferences_eq] at formed
  generalize document.stripReferences = stripped at formed ⊢
  cases stripped with
  | bool => rfl
  | object => rfl
  | _ =>
      dsimp only at formed
      split at formed
      · cases formed
      · split at formed <;> cases formed

namespace Json

/-- An object is filled member by member. -/
theorem Fills.of_members {members members' : List (String × Json)}
    (concrete : (Json.object members).reference? = none)
    (each : List.Forall₂ (Table.SameKey fun _ => Fills) members members') :
    (Json.object members).Fills (Json.object members') := by
  obtain ⟨same, held⟩ := List.forall₂_iff_get.mp each
  refine .object members members' concrete ?_ fun index member member' here here' => ?_
  · refine List.ext_getElem (by simp [same]) fun index inside inside' => ?_
    rw [List.getElem_map, List.getElem_map]
    exact (held index (by simpa using inside') (by simpa using inside)).1.symm
  · obtain ⟨inside, rfl⟩ := List.getElem?_eq_some_iff.mp here
    obtain ⟨inside', rfl⟩ := List.getElem?_eq_some_iff.mp here'
    exact (held index inside inside').2

/-- Filling a document makes no text of what is none. -/
theorem Fills.string? {node filled : Json} (fills : node.Fills filled) :
    filled.string? = node.string? := by
  cases fills with
  | filled _ _ text schema refers formed =>
      have shaped := Schema.isSchema_of_ofDocument formed
      cases node with
      | object =>
          cases filled with
          | string => cases shaped
          | _ => rfl
      | _ => cases refers
  | plain => rfl
  | array => rfl
  | object => rfl

/-- A document that is filled has no more references at its root than before. -/
theorem Fills.concrete {members members' : List (String × Json)}
    (concrete : (Json.object members).reference? = none)
    (each : List.Forall₂ (Table.SameKey fun _ => Fills) members members') :
    (Json.object members').reference? = none := by
  have found := Table.lookup_rel each "$ref"
  simp only [reference?, member?] at concrete ⊢
  generalize members.lookup "$ref" = value, members'.lookup "$ref" = value' at found concrete ⊢
  cases found with
  | none => rfl
  | some fills => exact fills.string?.trans concrete

/-- Without their references, a document and the filled one differ where the one has empty
schemas. -/
theorem Fills.opens {node filled : Json} (fills : node.Fills filled) (slot : Slot)
    (placed : node.placed slot = true) :
    Opens slot node.stripReferences filled.stripReferences := by
  induction fills generalizing slot with
  | filled node filler text schema refers formed =>
      rw [Json.placed.eq_def, refers] at placed
      rw [stripReferences_reference refers]
      exact .opened slot _ placed (Schema.isSchema_of_ofDocument formed)
  | plain node noItems noMembers =>
      rw [stripReferences_plain node noItems noMembers]
      exact .plain slot node noItems noMembers
  | array items items' same each ih =>
      have inside := (placedItems_iff slot.item items).mp placed
      rw [stripReferences_array, stripReferences_array]
      refine .array slot _ _ (by rw [List.length_map, List.length_map, same]) ?_
      intro index stripped stripped' here here'
      rw [List.getElem?_map] at here here'
      obtain ⟨item, found, rfl⟩ := Option.map_eq_some_iff.mp here
      obtain ⟨item', found', rfl⟩ := Option.map_eq_some_iff.mp here'
      exact ih index item item' found found' _ (inside item (List.mem_of_getElem? found))
  | object members members' concrete keys each ih =>
      rw [Json.placed.eq_def, concrete] at placed
      have inside := (placedMembers_iff slot _ members).mp placed
      have concrete' := Fills.concrete concrete (Table.forall₂_entries (fun _ => Fills) keys each)
      rw [stripReferences_object concrete, stripReferences_object concrete']
      refine .object slot _ _ ?_ ?_
      · rw [List.map_map, List.map_map]
        exact keys
      · intro index stripped stripped' here here'
        rw [List.getElem?_map] at here here'
        obtain ⟨member, found, rfl⟩ := Option.map_eq_some_iff.mp here
        obtain ⟨member', found', rfl⟩ := Option.map_eq_some_iff.mp here'
        rw [neighbours_stripReferences]
        exact ih index member member' found found' _ (inside member (List.mem_of_getElem? found))

variable {slot slot' : Slot} {node node' : Json}

/-- A document with places left open has them so under a less strict reading. -/
theorem Opens.narrow (opens : Opens slot node node') (narrows : slot.Narrows slot') :
    Opens slot' node node' := by
  induction opens generalizing slot' with
  | opened slot filler admits shaped => exact .opened _ _ (narrows.admits admits) shaped
  | plain slot node noItems noMembers => exact .plain _ _ noItems noMembers
  | array slot items items' same each ih =>
      exact .array _ _ _ same fun index item item' here here' =>
        ih index item item' here here' narrows.item
  | object slot members members' keys each ih =>
      exact .object _ _ _ keys fun index member member' here here' =>
        ih index member member' here here' (narrows.member _ _)

/-- Arrays are left open item by item. -/
theorem Opens.items {items items' : List Json}
    (opens : Opens slot (Json.array items) (Json.array items')) :
    List.Forall₂ (Opens slot.item) items items' := by
  cases opens with
  | plain _ _ noItems =>
      cases noItems
      exact .nil
  | array _ _ _ same each => exact Table.forall₂_of_getElem? same each

/-- A text is left as it is. -/
theorem Opens.string? (opens : Opens slot node node') : node.string? = node'.string? := by
  cases opens with
  | opened _ _ _ shaped =>
      cases node' with
      | string => cases shaped
      | _ => rfl
  | plain => rfl
  | array => rfl
  | object => rfl

/-- Two objects have the same keys, unless the one is empty in the place of the other. -/
theorem Opens.members (opens : Opens slot node node') :
    node = Json.object [] ∨ List.Forall₂
      (Table.SameKey fun key => Opens (slot.member (Slot.neighbours node.members) key)) node.members
        node'.members := by
  cases opens with
  | opened => exact .inl rfl
  | plain _ _ _ noMembers =>
      rw [noMembers]
      exact .inr .nil
  | array => exact .inr .nil
  | object _ members members' keys each =>
      exact .inr (Table.forall₂_entries (fun key =>
        Opens (slot.member (Slot.neighbours members) key)) keys each)

/-- What is left has the form of a schema if the filled document has. -/
theorem Opens.isSchema_eq (opens : Opens slot node node') : node.isSchema = node'.isSchema := by
  cases opens with
  | opened _ _ _ shaped => exact shaped.symm
  | plain => rfl
  | array => rfl
  | object => rfl

/-- An array lists the same texts as before. -/
theorem Opens.stringsOf_eq {items items' : List Json}
    (opens : Opens slot (Json.array items) (Json.array items')) :
    stringsOf (Json.array items) = stringsOf (Json.array items') := by
  have each := opens.items
  rw [stringsOf, stringsOf, Json.items, Json.items]
  clear opens
  induction each with
  | nil => rfl
  | cons first _ ih => rw [List.filterMap_cons, List.filterMap_cons, first.string?, ih]

/-- An array has as many items as before. -/
theorem Opens.array?_length (opens : Opens slot node node') :
    node.array?.map List.length = node'.array?.map List.length := by
  cases opens with
  | opened _ _ _ shaped =>
      cases node' with
      | array => cases shaped
      | _ => rfl
  | plain => rfl
  | array _ _ _ same => exact congrArg some same.symm
  | object => rfl

/-- Where no reference may stand, everything stays as it is. -/
theorem Opens.eq_of_fixed (opens : Opens .fixed node node') : node = node' := by
  generalize fixed : Slot.fixed = slot at opens
  induction opens with
  | opened _ _ admits =>
      subst fixed
      cases admits
  | plain => rfl
  | array slot items items' same each ih =>
      subst fixed
      have alike : List.Forall₂ Eq items items' := Table.forall₂_of_getElem? same
        fun index item item' here here' => ih index item item' here here' rfl
      rw [List.forall₂_eq_eq_eq] at alike
      rw [alike]
  | object slot members members' keys each ih =>
      subst fixed
      have alike : List.Forall₂ Eq members members' := (Table.forall₂_entries (fun _ => Eq) keys
        fun index member member' here here' => ih index member member' here here' rfl).imp
          fun _ _ same => Prod.ext same.1 same.2
      rw [List.forall₂_eq_eq_eq] at alike
      rw [alike]

/-- Texts, numbers and nothing stay as they are. -/
theorem Opens.eq_of_leaf (opens : Opens slot node node') (shape : node'.isSchema = false)
    (single : node'.array? = none) : node = node' := by
  cases opens with
  | opened _ _ _ shaped =>
      rw [shape] at shaped
      cases shaped
  | plain => rfl
  | array => cases single
  | object => cases shape

/-- Arrays of texts stay as they are. -/
theorem Opens.eq_of_texts {items' : List Json} (opens : Opens slot node (Json.array items'))
    (texts : ∀ item ∈ items', item.string?.isSome = true) : node = Json.array items' := by
  cases opens with
  | opened _ _ _ shaped => cases shaped
  | plain => rfl
  | array _ items _ same each =>
      have pairs := Table.forall₂_of_getElem? same each
      have equal : items = items' := by
        clear same each
        induction pairs with
        | nil => rfl
        | @cons item item' rest rest' first _ ih =>
            obtain ⟨own, others⟩ := List.forall_mem_cons.mp texts
            have alike : item = item' := by
              cases item' with
              | string => exact first.eq_of_leaf rfl rfl
              | _ => cases own
            rw [alike, ih others]
      rw [equal]

/-- A member is found among the members. -/
theorem member?_eq (node : Json) (key : String) : node.member? key = node.members.lookup key := by
  cases node <;> rfl

end Json

end ApiContract
