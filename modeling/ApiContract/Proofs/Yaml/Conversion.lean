import ApiContract.Document
import ApiContract.Proofs.Json.Members
import ApiContract.Proofs.Traversal

/-
This file proves which YAML trees have a JSON form and what the form is. Both are said apart from the
conversion: the trees by what stands in them at any depth, the form as a relation between two trees.
-/

namespace ApiContract

namespace Yaml

def Numeral.isFinite : Numeral → Bool
  | integer _ => true
  | float _ => true
  | infinity _ => false
  | notANumber => false

namespace Node

/-- The nodes directly below a node. What is inside a key is not below. -/
def values : Node → List Node
  | sequence items => items
  | mapping entries => entries.map (·.2)
  | tagged _ content => [content]
  | _ => []

/-- The keys of a mapping; any other node has none. -/
def keys : Node → List Node
  | mapping entries => entries.map (·.1)
  | _ => []

/-- Whether a node is a text, a number or a boolean without a tag. -/
def isPlainScalar : Node → Bool
  | text _ => true
  | number _ => true
  | bool _ => true
  | _ => false

/-- Whether something holds of a node and of all nodes below it. -/
inductive Everywhere (property : Node → Prop) : Node → Prop where
  | intro (node : Node) (here : property node)
      (below : ∀ child ∈ node.values, Everywhere property child) : Everywhere property node

/-- Whether nothing of a node itself stands against a JSON form: it is no number that is not finite,
and its keys are plain scalars. -/
def IsPresentable (node : Node) : Prop :=
  (∀ value, node = number value → value.isFinite = true) ∧
    ∀ key ∈ node.keys, key.isPlainScalar = true

/-- The text of a key: a text itself, a number or a boolean as it is written. -/
def keyName? : Node → Option String
  | text value => some value
  | number value => some value.text
  | bool value => some (if value then "true" else "false")
  | _ => none

/-- The last entry whose key has a given text. -/
def lastNamed? (entries : List (Node × Node)) (name : String) : Option (Node × Node) :=
  (entries.filter fun entry => entry.1.keyName? == some name).getLast?

/-- Whether a JSON tree is the form of a YAML tree: scalars and items keep their values, and an
object has the last value of each key. -/
inductive HasForm : Node → Json → Prop where
  | null : HasForm null .null
  | bool (value : Bool) : HasForm (bool value) (.bool value)
  | integer (value : Int) : HasForm (number (.integer value)) (.number (.integer value))
  | float (value : Binary64) : HasForm (number (.float value)) (.number (.float value))
  | text (value : String) : HasForm (text value) (.string value)
  | sequence (items : List Node) (items' : List Json) (same : items'.length = items.length)
      (each : ∀ (index : Nat) (item : Node) (item' : Json), items[index]? = some item →
        items'[index]? = some item' → HasForm item item') :
      HasForm (sequence items) (.array items')
  | mapping (entries : List (Node × Node)) (members : List (String × Json))
      (ordered : Table.InOrder members)
      (names : ∀ name, name ∈ members.map (·.1) ↔ name ∈ entries.filterMap (·.1.keyName?))
      (last : ∀ (name : String) (value : Json) (entry : Node × Node), (name, value) ∈ members →
        lastNamed? entries name = some entry → HasForm entry.2 value) :
      HasForm (mapping entries) (.object members)
  | tagged (tag : String) (content : Node) (json : Json) (inner : HasForm content json) :
      HasForm (tagged tag content) json

/-- The values of a node are smaller than the node. -/
theorem sizeOf_of_mem_values {node child : Node} (member : child ∈ node.values) :
    sizeOf child < sizeOf node := by
  cases node with
  | sequence items =>
      have smaller : sizeOf child < sizeOf items := List.sizeOf_lt_of_mem member
      rw [sequence.sizeOf_spec]
      omega
  | mapping entries =>
      obtain ⟨⟨key, value⟩, inside, rfl⟩ := List.mem_map.mp member
      have smaller := List.sizeOf_lt_of_mem inside
      rw [Prod.mk.sizeOf_spec] at smaller
      change sizeOf value < sizeOf (mapping entries)
      rw [mapping.sizeOf_spec]
      omega
  | tagged tag content =>
      rw [List.mem_singleton.mp member, tagged.sizeOf_spec]
      omega
  | _ => cases member

/-- What holds of a node once it holds of the nodes directly below it, holds of every node. -/
theorem values_induction {motive : Node → Prop}
    (step : ∀ node, (∀ child ∈ node.values, motive child) → motive node) (node : Node) :
    motive node :=
  step node fun child _ => values_induction step child
termination_by sizeOf node
decreasing_by exact sizeOf_of_mem_values ‹_›

/-- A property holds everywhere if it holds at the root and in each value. -/
theorem everywhere_iff (property : Node → Prop) (node : Node) :
    node.Everywhere property ↔ property node ∧ ∀ child ∈ node.values, child.Everywhere property := by
  constructor
  · rintro ⟨_, here, below⟩
    exact ⟨here, below⟩
  · rintro ⟨here, below⟩
    exact .intro node here below

/-- A key has a text exactly if it is a plain scalar. -/
theorem exists_keyName_iff (key : Node) :
    (∃ name, key.keyName = .ok name) ↔ key.isPlainScalar = true := by
  cases key <;> simp [keyName, isPlainScalar]

/-- A key that is given a name has that name. -/
theorem keyName?_of_keyName {key : Node} {name : String} (named : key.keyName = .ok name) :
    key.keyName? = some name := by
  cases key with
  | text value => cases named; rfl
  | number value => cases named; rfl
  | bool value => cases named; cases value <;> rfl
  | _ => cases named

/-- The form of an entry: the text of its key, and the form of its value. -/
def entryToJson (entry : Node × Node) : Except ConversionFault (String × Json) := do
  let name ← entry.1.keyName
  let content ← entry.2.toJson
  return (name, content)

/-- An entry is converted if its key has a name and its value is converted. -/
theorem entryToJson_eq_ok_iff (entry : Node × Node) (member : String × Json) :
    entryToJson entry = .ok member ↔
      entry.1.keyName = .ok member.1 ∧ entry.2.toJson = .ok member.2 := by
  rw [entryToJson, bind_eq_ok_iff]
  constructor
  · rintro ⟨name, named, onward⟩
    obtain ⟨content, made, same⟩ := (bind_eq_ok_iff _ _ _).mp onward
    cases same
    exact ⟨named, made⟩
  · rintro ⟨named, made⟩
    exact ⟨member.1, named, (bind_eq_ok_iff _ _ _).mpr ⟨member.2, made, rfl⟩⟩

theorem itemsToJson_eq (items : List Node) : itemsToJson items = items.mapM toJson := by
  induction items with
  | nil => rfl
  | cons item rest ih => rw [itemsToJson, ih, List.mapM_cons]

theorem entriesToJson_eq (entries : List (Node × Node)) :
    entriesToJson entries = entries.mapM entryToJson := by
  induction entries with
  | nil => rfl
  | cons entry rest ih =>
      obtain ⟨key, value⟩ := entry
      rw [entriesToJson, ih, List.mapM_cons, entryToJson]
      simp only [bind_assoc, pure_bind]

/-- A sequence is converted to the array of its converted items. -/
theorem toJson_sequence_eq_ok_iff (items : List Node) (json : Json) :
    (sequence items).toJson = .ok json ↔
      ∃ items', items.mapM toJson = .ok items' ∧ Json.array items' = json := by
  rw [toJson, bind_eq_ok_iff, itemsToJson_eq]
  exact exists_congr fun items' => and_congr_right fun _ => ⟨Except.ok.inj, congrArg Except.ok⟩

/-- A mapping is converted to the object of its converted entries, in key order. -/
theorem toJson_mapping_eq_ok_iff (entries : List (Node × Node)) (json : Json) :
    (mapping entries).toJson = .ok json ↔
      ∃ converted, entries.mapM entryToJson = .ok converted ∧ Json.ofMembers converted = json := by
  rw [toJson, bind_eq_ok_iff, entriesToJson_eq]
  exact exists_congr fun converted => and_congr_right fun _ => ⟨Except.ok.inj, congrArg Except.ok⟩

/-- A tree has a JSON form exactly if every node in it is presentable. -/
theorem exists_toJson_iff (node : Node) :
    (∃ json, node.toJson = .ok json) ↔ node.Everywhere IsPresentable := by
  induction node using values_induction with
  | step node ih =>
      rw [everywhere_iff, ← forall₂_congr ih]
      cases node with
      | null => simp [toJson, IsPresentable, keys, values]
      | bool value => simp [toJson, IsPresentable, keys, values]
      | text value => simp [toJson, IsPresentable, keys, values]
      | number value => cases value <;> simp [toJson, Numeral.toJson, IsPresentable, keys, values,
          Numeral.isFinite]
      | sequence items =>
          have presentable : (sequence items).IsPresentable := ⟨nofun, nofun⟩
          rw [and_iff_right presentable, values, ← exists_mapM_iff]
          simp only [toJson_sequence_eq_ok_iff]
          exact ⟨fun ⟨_, items', made, _⟩ => ⟨items', made⟩,
            fun ⟨items', made⟩ => ⟨_, items', made, rfl⟩⟩
      | mapping entries =>
          have presentable : (mapping entries).IsPresentable ↔
              ∀ entry ∈ entries, ∃ name, entry.1.keyName = .ok name := by
            simp only [exists_keyName_iff, IsPresentable, keys, List.forall_mem_map]
            exact and_iff_right nofun
          have converts : (∃ json, (mapping entries).toJson = .ok json) ↔
              ∀ entry ∈ entries, ∃ member, entryToJson entry = .ok member := by
            rw [← exists_mapM_iff]
            simp only [toJson_mapping_eq_ok_iff]
            exact ⟨fun ⟨_, converted, made, _⟩ => ⟨converted, made⟩,
              fun ⟨converted, made⟩ => ⟨_, converted, made, rfl⟩⟩
          rw [converts, presentable, values, List.forall_mem_map, ← forall₂_and]
          refine forall₂_congr fun entry _ => ?_
          simp only [entryToJson_eq_ok_iff, Prod.exists, exists_and_left, exists_and_right]
      | tagged tag content => simp [toJson, IsPresentable, keys, values]

/-- Lists that are related item by item have related last items. -/
theorem getLast?_rel {α β : Type} {relation : α → β → Prop} {items : List α} {items' : List β}
    (related : List.Forall₂ relation items items') :
    Option.Rel relation items.getLast? items'.getLast? := by
  have reversed := List.forall₂_reverse_iff.mpr related
  rw [List.getLast?_eq_head?_reverse, List.getLast?_eq_head?_reverse]
  generalize items.reverse = onward, items'.reverse = onward' at reversed
  cases reversed with
  | nil => exact .none
  | cons first _ => exact .some first

section Entries

variable {entries : List (Node × Node)} {converted : List (String × Json)}
variable (each : List.Forall₂ (fun entry member => entryToJson entry = .ok member) entries converted)

include each

/-- The names of the converted entries are the texts of the keys. -/
theorem names_of_converted : converted.map (·.1) = entries.filterMap (·.1.keyName?) := by
  induction each with
  | nil => rfl
  | @cons entry member _ _ first _ ih =>
      have named := keyName?_of_keyName ((entryToJson_eq_ok_iff entry member).mp first).1
      rw [List.map_cons, List.filterMap_cons, named, ih]

/-- Among the converted entries with a name, the last is the form of the last entry whose key has this
text. -/
theorem lastNamed?_rel (name : String) :
    Option.Rel (fun entry member => entryToJson entry = .ok member) (lastNamed? entries name)
      (converted.filter fun member => member.1 = name).getLast? := by
  refine getLast?_rel (List.rel_filter ?_ each)
  intro entry member made
  have named := keyName?_of_keyName ((entryToJson_eq_ok_iff entry member).mp made).1
  simp [named]

end Entries

/-- What a tree is converted to is its form. -/
theorem hasForm_of_toJson {node : Node} {json : Json} (made : node.toJson = .ok json) :
    node.HasForm json := by
  induction node using values_induction generalizing json with
  | step node ih =>
      cases node with
      | null => cases made; exact .null
      | bool value => cases made; exact .bool value
      | text value => cases made; exact .text value
      | number value =>
          cases value with
          | integer value => cases made; exact .integer value
          | float value => cases made; exact .float value
          | infinity negative => cases made
          | notANumber => cases made
      | sequence items =>
          obtain ⟨items', worked, rfl⟩ := (toJson_sequence_eq_ok_iff items json).mp made
          rw [mapM_eq_ok_iff, List.forall₂_iff_get] at worked
          obtain ⟨same, each⟩ := worked
          refine .sequence items items' same.symm fun index item item' here here' => ?_
          obtain ⟨inside, rfl⟩ := List.getElem?_eq_some_iff.mp here
          obtain ⟨inside', rfl⟩ := List.getElem?_eq_some_iff.mp here'
          exact ih _ (List.getElem_mem inside) (each index inside inside')
      | mapping entries =>
          obtain ⟨converted, worked, rfl⟩ := (toJson_mapping_eq_ok_iff entries json).mp made
          rw [mapM_eq_ok_iff] at worked
          refine .mapping entries _ (Json.sortMembers_ordered converted) ?_ ?_
          · intro name
            rw [Json.mem_keys_sortMembers, names_of_converted worked]
          · intro name value entry member found
            have kept := (Json.sortMembers_ordered converted).lookup_of_mem member
            have last := lastNamed?_rel worked name
            rw [Json.lookup_sortMembers] at kept
            rw [found] at last
            generalize (converted.filter fun member => member.1 = name).getLast? = final at kept last
            cases last with
            | some made =>
                cases kept
                have inside := List.mem_of_mem_filter (List.mem_of_getLast? found)
                exact ih _ (List.mem_map_of_mem inside) ((entryToJson_eq_ok_iff entry _).mp made).2
      | tagged tag content =>
          exact .tagged tag content json (ih content (.head _) made)

/-- Some last entry has the text of a key. -/
theorem exists_lastNamed (entries : List (Node × Node)) (name : String)
    (present : name ∈ entries.filterMap (·.1.keyName?)) :
    ∃ entry, lastNamed? entries name = some entry := by
  obtain ⟨entry, inside, named⟩ := List.mem_filterMap.mp present
  rw [← Option.ne_none_iff_exists', lastNamed?, Ne, List.getLast?_eq_none_iff,
    List.filter_eq_nil_iff]
  exact fun none => none entry inside (by rw [named, beq_self_eq_true])

/-- A tree has one form at most. -/
theorem HasForm.unique {node : Node} {json json' : Json} (form : node.HasForm json)
    (form' : node.HasForm json') : json = json' := by
  induction form generalizing json' with
  | sequence items items₁ same each ih =>
      cases form' with
      | sequence _ items₂ same' each' =>
          have lengths : items₁.length = items₂.length := same.trans same'.symm
          refine congrArg Json.array (List.ext_getElem lengths fun index inside inside' => ?_)
          have here : index < items.length := same ▸ inside
          exact ih index _ _ (List.getElem?_eq_getElem here) (List.getElem?_eq_getElem inside)
            (each' index _ _ (List.getElem?_eq_getElem here) (List.getElem?_eq_getElem inside'))
  | mapping entries members ordered names last ih =>
      cases form' with
      | mapping _ members' ordered' names' last' =>
          refine congrArg Json.object (ordered.eq_of_mem_iff ordered' ?_)
          rintro ⟨name, value⟩
          constructor
          · intro member
            have present := (names name).mp (List.mem_map_of_mem member)
            obtain ⟨entry, found⟩ := exists_lastNamed entries name present
            obtain ⟨⟨_, value'⟩, member', rfl⟩ := List.mem_map.mp ((names' name).mpr present)
            rw [ih _ value entry member found (last' _ value' entry member' found)]
            exact member'
          · intro member'
            have present := (names' name).mp (List.mem_map_of_mem member')
            obtain ⟨entry, found⟩ := exists_lastNamed entries name present
            obtain ⟨⟨_, value'⟩, member, rfl⟩ := List.mem_map.mp ((names name).mpr present)
            rw [← ih _ value' entry member found (last' _ value entry member' found)]
            exact member
  | tagged tag content json inner ih =>
      cases form' with
      | tagged _ _ _ inner' => exact ih inner'
  | _ =>
      cases form'
      rfl

/-- A tree is converted exactly if all its numbers are finite and all its keys are plain scalars,
and then to its form. -/
theorem toJson_gives_form (node : Node) :
    ((∃ json, node.toJson = .ok json) ↔ node.Everywhere IsPresentable) ∧
      ∀ json, node.toJson = .ok json ↔ node.Everywhere IsPresentable ∧ node.HasForm json := by
  refine ⟨exists_toJson_iff node, fun json => ⟨fun made => ?_, ?_⟩⟩
  · exact ⟨(exists_toJson_iff node).mp ⟨json, made⟩, hasForm_of_toJson made⟩
  · rintro ⟨presentable, form⟩
    obtain ⟨given, made⟩ := (exists_toJson_iff node).mpr presentable
    rw [form.unique (hasForm_of_toJson made)]
    exact made

/-- Two keys with one text leave one member, with the value of the last. -/
example : toJson (mapping [(number (.integer 200), tagged "x" (text "first")),
      (text "200", number (.integer 1)), (bool true, sequence [null])]) =
    .ok (.object [("200", .number (.integer 1)), ("true", .array [.null])]) := by rfl

end Node

end Yaml

end ApiContract
