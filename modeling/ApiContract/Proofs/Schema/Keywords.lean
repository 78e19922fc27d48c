import ApiContract.Proofs.Schema.Compiled

/-
This file says for each keyword of the seventh draft what leaving references in its value does to
its rules. The schemas inside the value are taken as known.
-/

namespace ApiContract

open SchemaLanguage (seventh)

namespace Effect

open Json KeywordEntry

variable {effect : Effect} {entries entries' : List KeywordEntry} {value value' : Json}
variable {part part' : KeywordPart}

/-- What leaving references does to the schemas in the value of a keyword. -/
inductive TracksPart (effect : Effect) : KeywordPart → KeywordPart → Prop where
  | plain : TracksPart effect .plain .plain
  | schema (result result' : SchemaResult) (tracks : Tracks effect.Relates result result') :
      TracksPart effect (.schema result) (.schema result')
  | list (results results' : List SchemaResult)
      (each : List.Forall₂ (Tracks effect.Relates) results results') :
      TracksPart effect (.list results) (.list results')

/-- A named schema with references left, and the filled one. -/
def TracksNamed (effect : Effect) : String × Json × SchemaResult → String × Json × SchemaResult →
    Prop :=
  Table.SameKey fun _ own own' => Opens (.schema effect) own.1 own'.1 ∧
    Tracks effect.Relates own.2 own'.2

/-- What leaving references does to the schemas that a keyword names. -/
inductive TracksTable (effect : Effect) (own : Bool) : KeywordPart → KeywordPart → Prop where
  | plain : TracksTable effect own .plain .plain
  | named (entries entries' : List (String × Json × SchemaResult))
      (each : List.Forall₂ effect.TracksNamed entries entries') :
      TracksTable effect own (.named entries) (.named entries')
  | opened (part' : KeywordPart) (admits : own = true) : TracksTable effect own (.named []) part'

/-- Whether leaving references in a value does to the schemas at it and directly inside it what an
effect says. -/
def TracksInside (effect : Effect) (value : Json) : Prop :=
  ∀ node node' : Json, node = value ∨ node ∈ value.children → Opens (.schema effect) node node' →
    Tracks effect.Relates (Schema.ofJson seventh node) (Schema.ofJson seventh node')

theorem keywordPart_plain (language : SchemaLanguage) (value : Json) :
    keywordPart language .plain value = .plain := by
  cases value <;> rfl

/-- What has not the form of a schema is read as none. -/
theorem keywordPart_of_not_isSchema (language : SchemaLanguage) {value : Json}
    (other : value.isSchema = false) : keywordPart language .schema value = .plain := by
  cases value with
  | bool => cases other
  | object => cases other
  | _ => rfl

/-- A keyword for a schema has the schema of its value. -/
theorem ofMember_schema {keyword : String} (shape : keywordShape keyword = .schema)
    (formed : value.isSchema = true) : ofMember seventh (keyword, value) =
      ⟨keyword, value, .schema (Schema.ofJson seventh value)⟩ := by
  rw [ofMember, shape, keywordPart_schema seventh formed]

/-- A keyword for a schema whose value is none is plain. -/
theorem ofMember_plain {keyword : String} (shape : keywordShape keyword = .schema)
    (other : value.isSchema = false) : ofMember seventh (keyword, value) =
      ⟨keyword, value, .plain⟩ := by
  rw [ofMember, shape, keywordPart_of_not_isSchema seventh other]

/-- A keyword for a schema tracks the filled one. -/
theorem tracksPart_schema {value value' : Json} (opens : Opens (.schema effect) value value')
    (inside : effect.TracksInside value) :
    effect.TracksPart (keywordPart seventh .schema value) (keywordPart seventh .schema value') := by
  cases formed : value.isSchema with
  | true =>
      rw [keywordPart_schema seventh formed,
        keywordPart_schema seventh (opens.isSchema_eq ▸ formed)]
      exact .schema _ _ (inside value value' (.inl rfl) opens)
  | false =>
      rw [keywordPart_of_not_isSchema seventh formed,
        keywordPart_of_not_isSchema seventh (opens.isSchema_eq ▸ formed)]
      exact .plain

/-- The schemas of a list track the filled ones. -/
theorem tracks_results {items items' : List Json}
    (opens : Opens (.schema effect) (Json.array items) (Json.array items'))
    (inside : effect.TracksInside (Json.array items)) :
    List.Forall₂ (Tracks effect.Relates) (schemaResults seventh items)
      (schemaResults seventh items') := by
  rw [schemaResults_eq, schemaResults_eq, List.forall₂_map_left_iff, List.forall₂_map_right_iff]
  exact forall₂_imp_of_mem opens.items fun item member item' _ below =>
    inside item item' (.inr member) below

/-- A keyword for a list of schemas tracks the filled one. -/
theorem tracksPart_list {value value' : Json} (opens : Opens (.schema effect) value value')
    (inside : effect.TracksInside value) :
    effect.TracksPart (keywordPart seventh .list value) (keywordPart seventh .list value') := by
  cases opens with
  | opened _ _ _ shaped =>
      cases value' with
      | array => cases shaped
      | _ => exact .plain
  | plain _ _ noItems =>
      cases value with
      | array items =>
          cases noItems
          exact .list [] [] .nil
      | _ => exact .plain
  | array _ items items' same each =>
      exact .list _ _ (tracks_results (.array _ items items' same each) inside)
  | object => exact .plain

/-- Apart from arrays, the schemas of a keyword that may list them are those at the keyword. -/
theorem keywordPart_schemaOrList (language : SchemaLanguage) {value : Json}
    (single : value.array? = none) :
    keywordPart language .schemaOrList value = keywordPart language .schema value := by
  cases value with
  | array => cases single
  | _ => rfl

/-- A keyword for a schema or a list of them tracks the filled one. -/
theorem tracksPart_schemaOrList {value value' : Json}
    (opens : Opens (.schema effect) value value') (inside : effect.TracksInside value) :
    effect.TracksPart (keywordPart seventh .schemaOrList value)
      (keywordPart seventh .schemaOrList value') := by
  have own := tracksPart_schema opens inside
  cases opens with
  | opened _ _ _ shaped =>
      rwa [keywordPart_schemaOrList seventh rfl, keywordPart_schemaOrList seventh]
      cases value' with
      | array => cases shaped
      | _ => rfl
  | plain _ _ noItems =>
      cases value with
      | array items =>
          cases noItems
          exact .list [] [] .nil
      | _ => exact own
  | array _ items items' same each =>
      exact .list _ _ (tracks_results (.array _ items items' same each) inside)
  | object => exact own

/-- A keyword that names schemas tracks the filled one. -/
theorem tracksTable {own : Bool} {value value' : Json}
    (opens : Opens (.table effect own) value value') (inside : effect.TracksInside value) :
    effect.TracksTable own (keywordPart seventh .named value)
      (keywordPart seventh .named value') := by
  cases opens with
  | opened _ _ admits => exact .opened _ admits
  | plain _ _ _ noMembers =>
      cases value with
      | object members =>
          cases noMembers
          exact .named [] [] .nil
      | _ => exact .plain
  | array => exact .plain
  | object _ members members' keys each =>
      refine .named _ _ ?_
      rw [namedResults_eq, namedResults_eq, List.forall₂_map_left_iff, List.forall₂_map_right_iff]
      refine forall₂_imp_of_mem (Table.forall₂_entries (fun _ => Opens (.schema effect)) keys each) ?_
      intro member held member' _ same
      exact ⟨same.1, same.2, inside member.2 member'.2
        (.inr (List.mem_map.mpr ⟨member, held, rfl⟩)) same.2⟩

/-- Named schemas that are compiled track the filled ones. -/
theorem tracks_compileNamed {entries entries' : List (String × Json × SchemaResult)}
    (each : List.Forall₂ effect.TracksNamed entries entries') :
    Tracks (List.Forall₂ effect.RelatesNamed) (compileNamed entries) (compileNamed entries') :=
  Tracks.mapM (each.imp fun _ _ same => same.2.2.map fun _ _ related => ⟨same.1, related⟩)

/-- Schemas under patterns that are compiled track the filled ones. -/
theorem tracks_compilePatterns {entries entries' : List (String × Json × SchemaResult)}
    (each : List.Forall₂ effect.TracksNamed entries entries') :
    Tracks (List.Forall₂ effect.RelatesPattern) (compilePatterns entries)
      (compilePatterns entries') := by
  refine Tracks.mapM (each.imp fun entry entry' same => ?_)
  dsimp only
  rw [same.1]
  cases Pattern.compile? entry'.1 with
  | none => exact nofun
  | some pattern => exact same.2.2.map fun _ _ related => ⟨rfl, related⟩

/-- A list of rules that stays as it is. -/
theorem tracks_same {result result' : Except Cause (List Rule)}
    (same : ∀ list, result' = .ok list → result = .ok list) :
    Tracks effect.RelatesRules result result' :=
  fun list made => ⟨list, same list made, effect.relates_refl _⟩

/-- A keyword that makes one rule of what it holds. -/
theorem tracks_rule {α α' : Type} {related : α → α' → Prop} {result : Except Cause α}
    {result' : Except Cause α'} {rule : α → Rule} {rule' : α' → Rule}
    (first : Tracks related result result')
    (onward : ∀ held held', related held held' → effect.RelatesRule (rule held) (rule' held')) :
    Tracks effect.RelatesRules (result >>= fun held => Except.ok [rule held])
      (result' >>= fun held => Except.ok [rule' held]) :=
  first.bind fun held held' related =>
    .ok (relatesRules_of_forall₂ (.cons (onward held held' related) .nil))

/-- What allows everything tracks anything where a change loosens. -/
theorem tracks_of_vacuous {result result' : Except Cause (List Rule)} (loosens : effect = .loosens)
    (vacuous : ∃ list, result = .ok list ∧ ∀ rule ∈ list, ∀ body, rule.Allows body) :
    Tracks effect.RelatesRules result result' := by
  obtain ⟨list, made, all⟩ := vacuous
  subst loosens
  exact fun list' _ => ⟨list, made, fun body _ _ =>
    (Schema.allows_rules list body).mpr fun rule listed => all rule listed body⟩

/-- A schema without rules allows everything. -/
theorem allows_empty (body : Json) : (Schema.rules []).allows body :=
  (Schema.allows_rules [] body).mpr nofun

/-- Where a keyword may not be left if a change tightens, it is only left where a change loosens. -/
theorem loosens_of_own (working : effect ≠ .inert) {bare : Bool}
    (own : (effect == .inert || effect == .loosens && bare) = true) : effect = .loosens := by
  cases effect with
  | loosens => rfl
  | inert => contradiction
  | _ => cases own

/-- A keyword that makes a rule of one schema. -/
theorem tracks_single {inner : Effect} {keyword : String} {rule : Json → Schema → Rule}
    (plain : ∀ entries value, rules seventh entries ⟨keyword, value, .plain⟩ = .ok [])
    (list : ∀ entries value results, rules seventh entries ⟨keyword, value, .list results⟩ = .ok [])
    (schema : ∀ entries value result, rules seventh entries ⟨keyword, value, .schema result⟩ =
      result >>= fun held => Except.ok [rule value held])
    (relates : ∀ held held', inner.Relates held held' →
      effect.RelatesRule (rule value held) (rule value' held'))
    (tracks : inner.TracksPart part part') :
    Tracks effect.RelatesRules (rules seventh entries ⟨keyword, value, part⟩)
      (rules seventh entries' ⟨keyword, value', part'⟩) := by
  cases tracks with
  | plain =>
      rw [plain, plain]
      exact tracks_same fun _ => id
  | schema _ _ tracks =>
      rw [schema, schema]
      exact tracks_rule tracks relates
  | list =>
      rw [list, list]
      exact tracks_same fun _ => id

/-- A keyword that makes a rule of a list of schemas. -/
theorem tracks_several {inner : Effect} {keyword : String} {rule : List Schema → Rule}
    (plain : ∀ entries value, rules seventh entries ⟨keyword, value, .plain⟩ = .ok [])
    (schema : ∀ entries value result,
      rules seventh entries ⟨keyword, value, .schema result⟩ = .ok [])
    (list : ∀ entries value results, rules seventh entries ⟨keyword, value, .list results⟩ =
      results.mapM id >>= fun held => Except.ok [rule held])
    (relates : ∀ held held', List.Forall₂ inner.Relates held held' →
      effect.RelatesRule (rule held) (rule held'))
    (tracks : inner.TracksPart part part') :
    Tracks effect.RelatesRules (rules seventh entries ⟨keyword, value, part⟩)
      (rules seventh entries' ⟨keyword, value', part'⟩) := by
  cases tracks with
  | plain =>
      rw [plain, plain]
      exact tracks_same fun _ => id
  | schema =>
      rw [schema, schema]
      exact tracks_same fun _ => id
  | list _ _ each =>
      rw [list, list]
      exact tracks_rule (Tracks.mapM each) relates

/-- The keywords whose values hold no schemas, and that read no neighbour. -/
def scalarKeywords : List String :=
  ["exclusiveMaximum", "exclusiveMinimum", "format", "maxItems", "maxLength", "maxProperties",
    "maximum", "minItems", "minLength", "minProperties", "minimum", "multipleOf", "pattern",
    "required", "type"]

/-- No neighbour excludes a limit since the sixth draft. -/
theorem not_excludes (entries : List KeywordEntry) (neighbour : String) :
    (match find? entries neighbour with
      | some ⟨_, .bool true, _⟩ => !seventh.draft.since .draft6
      | _ => false) = false := by
  split <;> rfl

/-- The rules of a scalar keyword do not depend on its neighbours. -/
theorem rules_scalar {keyword : String} (scalar : keyword ∈ scalarKeywords) (value : Json)
    (entries : List KeywordEntry) :
    rules seventh entries ⟨keyword, value, .plain⟩ = rules seventh [] ⟨keyword, value, .plain⟩ := by
  simp only [scalarKeywords, List.mem_cons, List.not_mem_nil, or_false] at scalar
  rcases scalar with rfl | rfl | rfl | rfl | rfl | rfl | rfl | rfl | rfl | rfl | rfl | rfl | rfl |
    rfl | rfl <;> cases value <;> first
    | rfl
    | exact congrArg (fun excluded => Except.ok
        [Rule.bound (if excluded then Bound.below else .atMost) _])
        (not_excludes entries "exclusiveMaximum")
    | exact congrArg (fun excluded => Except.ok
        [Rule.bound (if excluded then Bound.above else .atLeast) _])
        (not_excludes entries "exclusiveMinimum")

/-- A scalar keyword has the rules of the filled one. -/
theorem rules_of_scalar {keyword : String} (scalar : keyword ∈ scalarKeywords) {value value' : Json}
    (opens : Opens .free value value') (entries entries' : List KeywordEntry) {list : List Rule}
    (made : rules seventh entries' ⟨keyword, value', .plain⟩ = .ok list) :
    rules seventh entries ⟨keyword, value, .plain⟩ = .ok list := by
  rw [rules_scalar scalar] at made ⊢
  simp only [scalarKeywords, List.mem_cons, List.not_mem_nil, or_false] at scalar
  rcases scalar with rfl | rfl | rfl | rfl | rfl | rfl | rfl | rfl | rfl | rfl | rfl | rfl | rfl |
    rfl | rfl <;> cases opens with
  | opened _ _ _ shaped =>
      cases value' with
      | bool => cases made <;> rfl
      | object => cases made <;> rfl
      | _ => cases shaped
  | plain => exact made
  | array _ items items' same each =>
      have texts := (Opens.array .free items items' same each).stringsOf_eq
      cases made <;> first
        | rfl
        | exact congrArg (fun names => Except.ok [Rule.required names]) texts
        | exact congrArg (fun names => Except.ok [Rule.types (typeList names)]) texts
  | object => cases made <;> rfl

/-- A content keyword reads whether a neighbour is there, and the neighbour's text if it has one. -/
theorem contentRule?_congr {entries entries' : List KeywordEntry} (keyword text : String)
    (encoding : Option.Rel (fun given given' => given = given' ∨
      given.value.string? = none ∧ given'.value.string? = none)
        (find? entries "contentEncoding") (find? entries' "contentEncoding"))
    (media : (find? entries "contentMediaType").isNone =
      (find? entries' "contentMediaType").isNone) :
    contentRule? entries keyword (.string text) = contentRule? entries' keyword (.string text) := by
  unfold contentRule?
  dsimp only
  rw [media]
  generalize find? entries "contentEncoding" = given, find? entries' "contentEncoding" = given'
    at encoding
  cases encoding with
  | none => rfl
  | @some given given' same =>
      rcases same with rfl | ⟨untyped, untyped'⟩
      · rfl
      · obtain ⟨_, value, _⟩ := given
        obtain ⟨_, value', _⟩ := given'
        cases value with
        | string => cases untyped
        | _ =>
            cases value' with
            | string => cases untyped'
            | _ => rfl

/-- A content keyword makes at most one rule. -/
theorem rules_of_contentRule? (entries : List KeywordEntry) (keyword : String)
    (content : keyword = "contentEncoding" ∨ keyword = "contentMediaType") (value : Json) :
    rules seventh entries ⟨keyword, value, .plain⟩ =
      match contentRule? entries keyword value with
      | some rule => .ok [rule]
      | none => .ok [] := by
  rcases content with rfl | rfl <;> rfl

/-- The rules of a content keyword are the one that it makes, if any. -/
theorem rules_content (entries : List KeywordEntry) (keyword : String)
    (content : keyword = "contentEncoding" ∨ keyword = "contentMediaType") (value : Json) :
    rules seventh entries ⟨keyword, value, .plain⟩ =
      .ok (contentRule? entries keyword value).toList := by
  rw [rules_of_contentRule? entries keyword content]
  cases contentRule? entries keyword value <;> rfl

/-- A content keyword that is no text makes no rule. -/
theorem contentRule?_of_string? {entries : List KeywordEntry} {keyword : String} {value : Json}
    (untyped : value.string? = none) : contentRule? entries keyword value = none := by
  unfold contentRule?
  cases value with
  | string => cases untyped
  | _ => simp

/-- A content keyword makes the rule of the filled one. -/
theorem contentRule?_of_opens {keyword : String} {value value' : Json}
    {entries entries' : List KeywordEntry} (opens : Opens .free value value')
    (encoding : Option.Rel (fun given given' => given = given' ∨
      given.value.string? = none ∧ given'.value.string? = none)
        (find? entries "contentEncoding") (find? entries' "contentEncoding"))
    (media : (find? entries "contentMediaType").isNone =
      (find? entries' "contentMediaType").isNone) :
    contentRule? entries keyword value = contentRule? entries' keyword value' := by
  cases typed : value'.string? with
  | none => rw [contentRule?_of_string? typed, contentRule?_of_string? (opens.string?.trans typed)]
  | some text =>
      cases value' with
      | string text =>
          rw [opens.eq_of_leaf rfl rfl]
          exact contentRule?_congr keyword text encoding media
      | _ => cases typed

/-- Keywords whose values have to stay as they are track the filled ones. -/
theorem tracks_fixed (working : effect ≠ .inert) {keys : List String} {keyword : String}
    (fixed : keyword ∈ ["const", "enum", "uniqueItems"])
    (opens : Opens (Slot.ofKeyword effect keys keyword) value value') :
    Tracks effect.RelatesRules (rules seventh entries (ofMember seventh (keyword, value)))
      (rules seventh entries' (ofMember seventh (keyword, value'))) := by
  simp only [List.mem_cons, List.not_mem_nil, or_false] at fixed
  refine tracks_same fun list made => ?_
  rcases fixed with rfl | rfl | rfl
  · rw [show Slot.ofKeyword effect keys "const" = .fixed from if_neg working] at opens
    rw [opens.eq_of_fixed]
    exact made
  · rw [show Slot.ofKeyword effect keys "enum" = .fixed from if_neg working] at opens
    rw [opens.eq_of_fixed]
    cases value' <;> exact made
  · cases opens with
    | opened _ _ admits => cases admits
    | plain =>
        cases value with
        | bool value => cases value <;> exact made
        | _ => exact made
    | array => exact made
    | object => exact made

/-- The keyword `items` tracks the filled one. -/
theorem tracks_items (start : ownItems entries = ownItems entries')
    (tracks : effect.TracksPart part part') :
    Tracks effect.RelatesRules (rules seventh entries ⟨"items", value, part⟩)
      (rules seventh entries' ⟨"items", value', part'⟩) := by
  cases tracks with
  | plain => exact tracks_same fun _ => id
  | schema result result' tracks =>
      change Tracks effect.RelatesRules
        (result >>= fun held => Except.ok [Rule.items (ownItems entries) held])
        (result' >>= fun held => Except.ok [Rule.items (ownItems entries') held])
      rw [start]
      exact tracks_rule tracks fun _ _ => relates_items _
  | list _ _ each => exact tracks_rule (Tracks.mapM each) fun _ _ => relates_tuple "items"

/-- The keyword `propertyNames` tracks the filled one. -/
theorem tracks_propertyNames (working : effect ≠ .inert) (inside : effect.TracksInside value)
    (opens : Opens (.schema effect) value value') :
    Tracks effect.RelatesRules (rules seventh entries (ofMember seventh ("propertyNames", value)))
      (rules seventh entries' (ofMember seventh ("propertyNames", value'))) := by
  have own := inside value value' (.inl rfl) opens
  cases opens with
  | opened _ _ admits =>
      refine tracks_of_vacuous ((admits_iff working).mp admits) ⟨_, rfl, ?_⟩
      intro rule listed body
      rw [List.mem_singleton.mp listed, Rule.allows_propertyNames]
      exact fun _ _ => allows_empty _
  | plain =>
      refine tracks_same fun list made => ?_
      cases value with
      | bool value => cases value <;> exact made
      | _ => exact made
  | array => exact tracks_same fun _ => id
  | object _ members members' =>
      rw [ofMember_schema rfl rfl, ofMember_schema rfl rfl]
      exact tracks_rule own fun _ _ => relates_propertyNames

/-- The number of the items that have schemas of their own in a list. -/
def listedItems (entries : List KeywordEntry) : Option Nat :=
  (find? entries "items").bind fun entry => entry.value.array?.map List.length

/-- Where items are listed, additional ones stand beside `items`. -/
theorem contains_items_of_listed {members : List (String × Json)}
    (several : (listedItems (keywordEntries seventh members)).isSome = true) :
    (Slot.neighbours members).contains "items" = true := by
  rw [listedItems, find?_keywordEntries] at several
  cases held : members.lookup "items" with
  | none =>
      rw [held] at several
      cases several
  | some value =>
      rw [held, Option.map_some, Option.bind_some, Option.isSome_map] at several
      refine List.contains_iff_mem.mpr (List.mem_map.mpr ⟨("items", value), ?_, rfl⟩)
      exact List.mem_filter.mpr ⟨Table.mem_of_lookup _ _ _ held, several⟩

/-- The rules for additional items are made by the shape of `items`. -/
theorem rules_additionalItems_of_items (entries : List KeywordEntry) (value : Json)
    (result : SchemaResult) :
    rules seventh entries ⟨"additionalItems", value, .schema result⟩ =
      match find? entries "items", value with
      | some ⟨_, .array items, _⟩, .bool false => Except.ok [Rule.noMoreItems items.length]
      | some ⟨_, .array items, _⟩, _ =>
          result >>= fun held => Except.ok [Rule.moreItems items.length held]
      | _, _ => Except.ok [] :=
  rfl

/-- Additional items are read beside a list of items only. -/
theorem rules_additionalItems (entries : List KeywordEntry) (value : Json) (result : SchemaResult) :
    rules seventh entries ⟨"additionalItems", value, .schema result⟩ =
      match listedItems entries, value with
      | none, _ => Except.ok []
      | some length, .bool false => Except.ok [Rule.noMoreItems length]
      | some length, _ => result >>= fun held => Except.ok [Rule.moreItems length held] := by
  rw [rules_additionalItems_of_items, listedItems]
  cases find? entries "items" with
  | none => rfl
  | some entry =>
      obtain ⟨keyword, items, part⟩ := entry
      cases items with
      | array items =>
          cases value with
          | bool value => cases value <;> rfl
          | _ => rfl
      | _ => rfl

/-- The keyword `additionalItems` tracks the filled one, wherever it is read. -/
theorem tracks_additionalItems (working : effect ≠ .inert) (inside : effect.TracksInside value)
    {read : Bool} (opens : Opens (.schema (if read then effect else .inert)) value value')
    (reads : (listedItems entries).isSome = true → read = true)
    (listed : listedItems entries = listedItems entries') :
    Tracks effect.RelatesRules (rules seventh entries (ofMember seventh ("additionalItems", value)))
      (rules seventh entries' (ofMember seventh ("additionalItems", value'))) := by
  cases formed : value.isSchema with
  | false =>
      rw [ofMember_plain rfl formed, ofMember_plain rfl (opens.isSchema_eq ▸ formed)]
      exact tracks_same fun _ => id
  | true =>
      rw [ofMember_schema rfl formed, ofMember_schema rfl (opens.isSchema_eq ▸ formed),
        rules_additionalItems, rules_additionalItems, ← listed]
      cases several : listedItems entries with
      | none => exact tracks_same fun _ => id
      | some length =>
          rw [reads (several ▸ rfl), if_pos rfl] at opens
          have own := inside value value' (.inl rfl) opens
          cases opens with
          | opened _ _ admits =>
              refine tracks_of_vacuous ((admits_iff working).mp admits) ⟨_, rfl, ?_⟩
              intro rule listed body
              rw [List.mem_singleton.mp listed, Rule.allows_moreItems]
              exact fun _ _ => allows_empty _
          | plain => exact tracks_same fun _ => id
          | array => cases formed
          | object => exact tracks_rule own fun _ _ => relates_moreItems length

/-- Neighbours that are both there or both not, where the part of the one tracks that of the
other. -/
def TracksNeighbour (effect : Effect) (entries entries' : List KeywordEntry) (keyword : String) :
    Prop :=
  Option.Rel (fun entry entry' => effect.TracksPart entry.part entry'.part)
    (find? entries keyword) (find? entries' keyword)

/-- The schema of a neighbour tracks the filled one. -/
theorem tracks_schemaOf {keyword : String}
    (neighbour : effect.TracksNeighbour entries entries' keyword) :
    Tracks (Option.Rel effect.Relates) (schemaOf entries keyword) (schemaOf entries' keyword) := by
  unfold schemaOf
  unfold TracksNeighbour at neighbour
  generalize find? entries keyword = found, find? entries' keyword = found' at neighbour
  cases neighbour with
  | none => exact .ok .none
  | @some entry entry' tracks =>
      obtain ⟨_, _, part⟩ := entry
      obtain ⟨_, _, part'⟩ := entry'
      cases tracks with
      | plain => exact .ok .none
      | schema _ _ tracks => exact tracks.map fun _ _ => .some
      | list => exact .ok .none

/-- Neighbours that track one another are both there or both not. -/
theorem TracksNeighbour.isSome_eq {keyword : String}
    (neighbour : effect.TracksNeighbour entries entries' keyword) :
    (find? entries keyword).isSome = (find? entries' keyword).isSome := by
  unfold TracksNeighbour at neighbour
  generalize find? entries keyword = found, find? entries' keyword = found' at neighbour ⊢
  cases neighbour <;> rfl

/-- A neighbour that is absent has no schema on either side. -/
theorem tracks_schemaOf_absent {keyword : String}
    (neighbour : effect.TracksNeighbour entries entries' keyword)
    (absent : (find? entries keyword).isSome = false) :
    Tracks (fun left right => left = none ∧ right = none) (schemaOf entries keyword)
      (schemaOf entries' keyword) := by
  have absent' := neighbour.isSome_eq ▸ absent
  rw [Option.isSome_eq_false_iff, Option.isNone_iff_eq_none] at absent absent'
  rw [schemaOf, schemaOf, absent, absent']
  exact .ok ⟨rfl, rfl⟩

/-- Whether a condition has a branch. -/
def hasBranch (entries : List KeywordEntry) : Bool :=
  (find? entries "then").isSome || (find? entries "else").isSome

/-- A condition is read with its branches, if it has any. -/
theorem rules_if (result : SchemaResult) : rules seventh entries ⟨"if", value, .schema result⟩ =
    if hasBranch entries then
      result >>= fun condition => schemaOf entries "then" >>= fun whenTrue =>
        schemaOf entries "else" >>= fun whenFalse =>
          Except.ok [Rule.conditional condition whenTrue whenFalse]
    else .ok (result.toOption.map (Rule.conditional · none none)).toList := by
  have meaning : rules seventh entries ⟨"if", value, .schema result⟩ =
      if (find? entries "then").isNone ∧ (find? entries "else").isNone then
        .ok (result.toOption.map (Rule.conditional · none none)).toList
      else
        result >>= fun condition => schemaOf entries "then" >>= fun whenTrue =>
          schemaOf entries "else" >>= fun whenFalse =>
            Except.ok [Rule.conditional condition whenTrue whenFalse] := rfl
  rw [meaning, hasBranch]
  cases find? entries "then" <;> cases find? entries "else" <;> rfl

/-- A condition without branches allows everything. -/
theorem allows_unbranched (result : SchemaResult) (body : Json) :
    (Schema.rules (result.toOption.map (Rule.conditional · none none)).toList).allows body := by
  rw [Schema.allows_rules]
  intro rule listed
  obtain ⟨condition, -, rfl⟩ := Option.map_eq_some_iff.mp (Option.mem_toList.mp listed)
  rw [Rule.allows_conditional]
  exact ⟨fun _ => nofun, fun _ => nofun⟩

/-- A condition with branches tracks another in whatever way the condition and the branches do. -/
theorem tracks_branches {related : Schema → Schema → Prop}
    {first second : Option Schema → Option Schema → Prop} {result result' : SchemaResult}
    (branches : hasBranch entries = true) (branches' : hasBranch entries' = true)
    (condition : Tracks related result result')
    (whenTrue : Tracks first (schemaOf entries "then") (schemaOf entries' "then"))
    (whenFalse : Tracks second (schemaOf entries "else") (schemaOf entries' "else"))
    (each : ∀ held held', related held held' → ∀ yes yes', first yes yes' → ∀ no no',
      second no no' → effect.RelatesRule (.conditional held yes no) (.conditional held' yes' no')) :
    Tracks effect.RelatesRules (rules seventh entries ⟨"if", value, .schema result⟩)
      (rules seventh entries' ⟨"if", value', .schema result'⟩) := by
  rw [rules_if, rules_if, if_pos branches, if_pos branches']
  exact condition.bind fun held held' same => whenTrue.bind fun yes yes' sameTrue =>
    tracks_rule whenFalse fun no no' sameFalse =>
      each held held' same yes yes' sameTrue no no' sameFalse

/-- The keyword `if` tracks the filled one, whichever branches it has. -/
theorem tracks_if (working : effect ≠ .inert)
    (inside : ∀ inner, inner ≠ .inert → TracksInside inner value)
    (whenTrue : effect.TracksNeighbour entries entries' "then")
    (whenFalse : effect.TracksNeighbour entries entries' "else")
    (opens : Opens (Slot.ofCondition effect (find? entries "then").isSome
      (find? entries "else").isSome) value value') :
    Tracks effect.RelatesRules (rules seventh entries (ofMember seventh ("if", value)))
      (rules seventh entries' (ofMember seventh ("if", value'))) := by
  cases formed : value.isSchema with
  | false =>
      rw [ofMember_plain rfl formed, ofMember_plain rfl (opens.isSchema_eq ▸ formed)]
      exact tracks_same fun _ => id
  | true =>
      rw [ofMember_schema rfl formed, ofMember_schema rfl (opens.isSchema_eq ▸ formed)]
      have first := tracks_schemaOf whenTrue
      have second := tracks_schemaOf whenFalse
      have some : hasBranch entries = hasBranch entries' := by
        rw [hasBranch, hasBranch, whenTrue.isSome_eq, whenFalse.isSome_eq]
      cases yes : (find? entries "then").isSome with
      | true =>
          have branches : hasBranch entries = true := by rw [hasBranch, yes, Bool.true_or]
          cases no : (find? entries "else").isSome with
          | true =>
              rw [yes, no, Slot.ofCondition, still_of_working working] at opens
              refine tracks_branches branches (some ▸ branches)
                (inside .keeps (by decide) value value' (.inl rfl) opens) first second ?_
              intro held held' same yes yes' sameTrue no no' sameFalse
              exact relates_branches same sameTrue sameFalse
          | false =>
              rw [yes, no] at opens
              refine tracks_branches branches (some ▸ branches)
                (inside effect.flip (flip_ne_inert working) value value' (.inl rfl) opens) first
                (tracks_schemaOf_absent whenFalse no) ?_
              rintro held held' same yes yes' sameTrue _ _ ⟨rfl, rfl⟩
              exact relates_whenTrue same sameTrue
      | false =>
          cases no : (find? entries "else").isSome with
          | true =>
              have branches : hasBranch entries = true := by rw [hasBranch, no, Bool.or_true]
              rw [yes, no] at opens
              refine tracks_branches branches (some ▸ branches)
                (inside effect working value value' (.inl rfl) opens)
                (tracks_schemaOf_absent whenTrue yes) second ?_
              rintro held held' same _ _ ⟨rfl, rfl⟩ no no' sameFalse
              exact relates_whenFalse same sameFalse
          | false =>
              have bare : hasBranch entries = false := by rw [hasBranch, yes, no]; rfl
              rw [rules_if, rules_if, ← some, bare, if_neg Bool.false_ne_true,
                if_neg Bool.false_ne_true]
              exact .ok fun body _ => effect.implies_of_iff
                (iff_of_true (allows_unbranched _ body) (allows_unbranched _ body))

/-- A dependency tracks the filled one. -/
theorem tracks_dependency {key : String} {result result' : SchemaResult}
    (opens : Opens (.schema effect) value value') (tracks : Tracks effect.Relates result result') :
    Tracks effect.RelatesRule (dependency key value result) (dependency key value' result') := by
  have wrapped : Tracks effect.RelatesRule (result.map (.schemaWith "dependencies" key ·))
      (result'.map (.schemaWith "dependencies" key ·)) :=
    tracks.map fun _ _ => relates_schemaWith "dependencies" key
  cases opens with
  | opened _ _ _ shaped =>
      cases value' with
      | array => cases shaped
      | _ => exact wrapped
  | plain =>
      cases value with
      | array => exact .ok (effect.relatesRule_refl _)
      | _ => exact wrapped
  | array _ items items' same each =>
      have texts := (Opens.array _ items items' same each).stringsOf_eq
      rw [dependency, dependency, texts]
      exact .ok (effect.relatesRule_refl _)
  | object => exact wrapped

/-- The keyword `dependencies` tracks the filled one. -/
theorem tracks_dependencies (own : Bool) (loosens : own = true → effect = .loosens)
    (tracks : effect.TracksTable own part part') :
    Tracks effect.RelatesRules (rules seventh entries ⟨"dependencies", value, part⟩)
      (rules seventh entries' ⟨"dependencies", value', part'⟩) := by
  cases tracks with
  | plain => exact tracks_same fun _ => id
  | named found found' each =>
      have all : Tracks (List.Forall₂ effect.RelatesRule)
          (found.mapM fun entry => dependency entry.1 entry.2.1 entry.2.2)
          (found'.mapM fun entry => dependency entry.1 entry.2.1 entry.2.2) :=
        Tracks.mapM (each.imp fun entry entry' same => by
          rw [same.1]
          exact tracks_dependency same.2.1 same.2.2)
      intro list' made
      obtain ⟨list, worked, related⟩ := all list' made
      exact ⟨list, worked, relatesRules_of_forall₂ related⟩
  | opened _ admits =>
      exact tracks_of_vacuous (loosens admits) ⟨[], rfl, nofun⟩

/-- Named schemas track the filled ones, also where the additional properties take them over. -/
theorem tracks_named {τ : Type} (named : NamedKeyword τ) {own : Bool} {related : τ → τ → Prop}
    (compiles : ∀ found found', List.Forall₂ effect.TracksNamed found found' →
      Tracks (List.Forall₂ related) (named.compile found) (named.compile found'))
    (relates : ∀ list list', List.Forall₂ related list list' →
      effect.RelatesRule (named.rule list) (named.rule list'))
    (loosens : own = true → effect = .loosens)
    (restricts : restrictsProperties entries = restrictsProperties entries' ∨
      effect = .loosens ∧ restrictsProperties entries = true)
    (tracks : effect.TracksTable own part part') :
    Tracks effect.RelatesRules (rules seventh entries ⟨named.keyword, value, part⟩)
      (rules seventh entries' ⟨named.keyword, value', part'⟩) := by
  cases tracks with
  | plain =>
      rw [named.rules_plain, named.rules_plain]
      exact tracks_same fun _ => id
  | named found found' each =>
      rw [named.rules_named, named.rules_named]
      rcases restricts with same | ⟨loosens, taken⟩
      · rw [same]
        split
        · exact tracks_same fun _ => id
        · exact tracks_rule (compiles found found' each) relates
      · rw [taken, if_pos rfl]
        exact tracks_of_vacuous loosens ⟨[], rfl, nofun⟩
  | opened _ admits =>
      refine tracks_of_vacuous (loosens admits) ?_
      rw [named.rules_named]
      split
      · exact ⟨[], rfl, nofun⟩
      · rw [named.compile_nil]
        refine ⟨[named.rule []], rfl, fun given listed body => ?_⟩
        rw [List.mem_singleton.mp listed]
        exact named.rule_nil body

/-- What the additional properties read of a neighbour that names schemas. -/
structure TracksNames (effect : Effect) (entries entries' : List KeywordEntry) (keyword : String) :
    Prop where
  present : (find? entries keyword).isSome = (find? entries' keyword).isSome
  named : List.Forall₂ effect.TracksNamed (namedOf entries keyword) (namedOf entries' keyword)

/-- The additional properties track the filled ones, unless they are left themselves. -/
theorem tracks_additionalProperties (inside : effect.TracksInside value)
    (properties : effect.TracksNames entries entries' "properties")
    (patterns : effect.TracksNames entries entries' "patternProperties")
    (opens : Opens (.schema effect) value value') :
    Tracks effect.RelatesRules
      (rules seventh entries (ofMember seventh ("additionalProperties", value)))
      (rules seventh entries' (ofMember seventh ("additionalProperties", value'))) ∨
    value = .object [] ∧ (Slot.schema effect).admits = true := by
  have own := inside value value' (.inl rfl) opens
  have first := tracks_compileNamed properties.named
  have second := tracks_compilePatterns patterns.named
  have objects (members members' : List (String × Json)) (held : Tracks effect.Relates
      (Schema.ofJson seventh (.object members)) (Schema.ofJson seventh (.object members'))) :
      Tracks effect.RelatesRules
        (rules seventh entries (ofMember seventh ("additionalProperties", .object members)))
        (rules seventh entries' (ofMember seventh ("additionalProperties", .object members'))) := by
    rw [rules_additionalProperties _ rfl, rules_additionalProperties _ rfl]
    exact second.bind fun _ _ matched => first.bind fun _ _ named =>
      tracks_rule held fun _ _ other => relates_openProperties named matched other
  cases opens with
  | opened _ _ admits => exact .inr ⟨rfl, admits⟩
  | plain =>
      refine .inl ?_
      cases value with
      | bool value =>
          rw [rules_additionalProperties _ rfl, rules_additionalProperties _ rfl]
          cases value with
          | true => exact second.bind fun _ _ _ => tracks_same fun _ => id
          | false =>
              refine second.bind fun _ _ matched => ?_
              dsimp only
              rw [properties.present, patterns.present]
              split
              · exact tracks_same fun _ => id
              · exact tracks_rule first fun _ _ named => relates_closedProperties named matched
      | object members => exact objects members members own
      | _ => exact tracks_same fun _ => id
  | array => exact .inl (tracks_same fun _ => id)
  | object _ members members' => exact .inl (objects members members' own)

/-- The keywords whose values hold schemas and do not have to stay as they are. -/
def schemaKeywords : List String :=
  ["additionalItems", "additionalProperties", "allOf", "anyOf", "contains", "dependencies", "if",
    "items", "not", "oneOf", "patternProperties", "properties", "propertyNames"]

/-- The keywords of the seventh draft fall into four groups. -/
theorem knows_cases {keyword : String} (known : seventh.knows keyword = true) :
    keyword ∈ scalarKeywords ∨ (keyword = "contentEncoding" ∨ keyword = "contentMediaType") ∨
      keyword ∈ ["const", "enum", "uniqueItems"] ∨ keyword ∈ schemaKeywords := by
  unfold SchemaLanguage.knows SchemaLanguage.keyword? at known
  split at known
  · cases known
  · next found =>
      split at found <;> first
        | decide
        | cases found <;> cases known

/-- Keywords that hold no schemas may be anything, and have no part. -/
theorem ofKeyword_plain {keyword : String} (keys : List String) (plain : keyword ∈ scalarKeywords ∨
    (keyword = "contentEncoding" ∨ keyword = "contentMediaType")) :
    Slot.ofKeyword effect keys keyword = .free ∧ keywordShape keyword = .plain := by
  simp only [scalarKeywords, List.mem_cons, List.not_mem_nil, or_false] at plain
  rcases plain with (rfl | rfl | rfl | rfl | rfl | rfl | rfl | rfl | rfl | rfl | rfl | rfl | rfl |
    rfl | rfl) | rfl | rfl <;> exact ⟨rfl, rfl⟩

end Effect

end ApiContract
