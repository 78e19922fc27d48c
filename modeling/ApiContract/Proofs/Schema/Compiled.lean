import ApiContract.Proofs.Schema.Opening
import ApiContract.Proofs.Traversal

/-
This file says what the schema of a document means in the seventh draft: a value fits it if it keeps
the rules of each keyword. A keyword reads its own value and a few of its neighbours.
-/

namespace ApiContract

namespace SchemaLanguage

/-- The language of documents that name no other draft. -/
def seventh : SchemaLanguage := ⟨.draft7, []⟩

/-- Whether a document asks for the seventh draft, if it asks for one. -/
def AsksSeventh (node : Json) : Prop :=
  ∀ name, Draft.asked? node = some name → Draft.ofName? name = some .draft7

/-- What asks for no draft does not ask for another one. -/
theorem asksSeventh_of_none {node : Json} (unnamed : Draft.asked? node = none) :
    AsksSeventh node := by
  intro name named
  rw [unnamed] at named
  cases named

/-- Inside a document of the seventh draft its language stays. -/
theorem inside_seventh {node : Json} (asks : AsksSeventh node) : seventh.inside node = seventh := by
  unfold inside Draft.insideOrNewest Draft.inside
  cases asked : Draft.asked? node with
  | none => rfl
  | some name =>
      dsimp only
      rw [asks name asked]
      rfl

/-- The language of a document that asks for the seventh draft is that draft. -/
theorem ofDocument_seventh {node : Json} (asks : AsksSeventh node) : ofDocument node = seventh := by
  unfold ofDocument Draft.inside
  cases asked : Draft.asked? node with
  | none => rfl
  | some name =>
      dsimp only
      rw [asks name asked]
      rfl

/-- No keyword of the seventh draft depends on what its neighbours leave unevaluated. -/
theorem not_late {keyword : String} (known : seventh.knows keyword = true) :
    Text.startsWith keyword "unevaluated" = false := by
  unfold knows keyword? at known
  split at known
  · cases known
  · next found =>
      split at found <;> first
        | decide
        | cases found <;> cases known

end SchemaLanguage

namespace KeywordEntry

open SchemaLanguage (seventh)

/-- The entry of a member of a schema. -/
def ofMember (language : SchemaLanguage) (member : String × Json) : KeywordEntry :=
  ⟨member.1, member.2, keywordPart language (keywordShape member.1) member.2⟩

/-- The keywords of a schema are read member by member. -/
theorem keywordEntries_eq (language : SchemaLanguage) (members : List (String × Json)) :
    keywordEntries language members = members.map (ofMember language) := by
  induction members with
  | nil => rw [keywordEntries, List.map_nil]
  | cons member rest ih => rw [keywordEntries, ih, List.map_cons, ofMember]

/-- The keyword that is found is the member that is found. -/
theorem find?_keywordEntries (language : SchemaLanguage) (members : List (String × Json))
    (keyword : String) : find? (keywordEntries language members) keyword =
      (members.lookup keyword).map fun value => ofMember language (keyword, value) := by
  rw [keywordEntries_eq, find?]
  induction members with
  | nil => rfl
  | cons member rest ih =>
      rw [List.map_cons, List.find?_cons, Table.lookup_cons]
      by_cases same : keyword = member.1
      · subst same
        simp [ofMember]
      · have other : ((ofMember language member).keyword == keyword) = false :=
          beq_false_of_ne (Ne.symm same)
        rw [other, if_neg same, ih]

/-- A keyword is listed if it is found. -/
theorem contains_keys (members : List (String × Json)) (keyword : String) :
    (members.map (·.1)).contains keyword =
      (find? (keywordEntries seventh members) keyword).isSome := by
  rw [find?_keywordEntries, Option.isSome_map]
  induction members with
  | nil => rfl
  | cons member rest ih =>
      rw [List.map_cons, List.contains_cons, ih, Table.lookup_cons]
      by_cases same : keyword = member.1 <;> simp [same]

/-- Apart from `items`, a keyword is a neighbour wherever it is listed. -/
theorem contains_neighbours (members : List (String × Json)) {keyword : String}
    (other : keyword ≠ "items") : (Slot.neighbours members).contains keyword =
      (find? (keywordEntries seventh members) keyword).isSome := by
  rw [← contains_keys, Slot.neighbours, Bool.eq_iff_iff]
  simp only [List.contains_iff_mem, List.mem_map, List.mem_filter]
  constructor
  · rintro ⟨member, listed, rfl⟩
    exact ⟨member, listed.1, rfl⟩
  · rintro ⟨member, listed, rfl⟩
    exact ⟨member, ⟨listed, by simp [other]⟩, rfl⟩

/-- A keyword that a schema lists is a neighbour of the others, apart from `items`. -/
theorem contains_neighbours_of_mem {members : List (String × Json)} {keyword : String}
    (other : keyword ≠ "items") {value : Json} (listed : (keyword, value) ∈ members) :
    (Slot.neighbours members).contains keyword = true := by
  rw [contains_neighbours members other, ← contains_keys]
  exact List.contains_iff_mem.mpr (List.mem_map.mpr ⟨_, listed, rfl⟩)

theorem schemaResults_eq (language : SchemaLanguage) (items : List Json) :
    schemaResults language items = items.map (Schema.ofJson language) := by
  induction items with
  | nil => rw [schemaResults, List.map_nil]
  | cons item rest ih => rw [schemaResults, ih, List.map_cons]

theorem namedResults_eq (language : SchemaLanguage) (members : List (String × Json)) :
    namedResults language members =
      members.map fun member => (member.1, member.2, Schema.ofJson language member.2) := by
  induction members with
  | nil => rw [namedResults, List.map_nil]
  | cons member rest ih => rw [namedResults, ih, List.map_cons]

/-- Whether a value keeps the rules of all keywords of a schema. -/
def Keeps (entries : List KeywordEntry) (value : Json) : Prop :=
  ∀ entry ∈ entries, seventh.knows entry.keyword = true →
    ∀ list, rules seventh entries entry = .ok list → ∀ rule ∈ list, rule.Allows value

/-- The keywords of the seventh draft are put together in two parts. -/
theorem assemble_seventh (entries : List KeywordEntry) : assemble seventh entries = do
    let known := entries.filter (seventh.knows ·.keyword)
    let isBefore := fun entry : KeywordEntry => decide (entry.keyword < "unevaluated")
    let before ← (known.filter isBefore).mapM (rules seventh entries)
    let after ← (known.filter (!isBefore ·)).mapM (rules seventh entries)
    return .rules (before.flatten ++ after.flatten) := by
  have late : (entries.filter (seventh.knows ·.keyword)).filter
      (fun entry => Text.startsWith entry.keyword "unevaluated") = [] := by
    rw [List.filter_eq_nil_iff]
    intro entry member
    rw [SchemaLanguage.not_late (List.mem_filter.mp member).2]
    exact Bool.false_ne_true
  have early : (entries.filter (seventh.knows ·.keyword)).filter (fun entry =>
      !decide (entry.keyword < "unevaluated") && !Text.startsWith entry.keyword "unevaluated") =
        (entries.filter (seventh.knows ·.keyword)).filter
          (fun entry => !decide (entry.keyword < "unevaluated")) := by
    refine List.filter_congr fun entry member => ?_
    rw [SchemaLanguage.not_late (List.mem_filter.mp member).2, Bool.not_false, Bool.and_true]
  unfold assemble
  simp only [late, early, List.mapM_nil, pure_bind, List.append_nil]

/-- A schema has a meaning if each of its keywords has one. -/
theorem assemble_of_rules {entries : List KeywordEntry}
    (each : ∀ entry ∈ entries, seventh.knows entry.keyword = true →
      ∃ list, rules seventh entries entry = .ok list) :
    ∃ schema, assemble seventh entries = .ok schema := by
  have part (choice : KeywordEntry → Bool) : ∃ lists,
      ((entries.filter (seventh.knows ·.keyword)).filter choice).mapM (rules seventh entries) =
        .ok lists := by
    have able : ∀ entry ∈ (entries.filter (seventh.knows ·.keyword)).filter choice,
        ∃ list, rules seventh entries entry = .ok list ∧ True := by
      intro entry member
      obtain ⟨inside, known⟩ := List.mem_filter.mp (List.mem_filter.mp member).1
      exact (each entry inside known).imp fun _ held => ⟨held, trivial⟩
    exact (mapM_of_forall able).imp fun _ worked => worked.1
  obtain ⟨before, first⟩ := part fun entry => decide (entry.keyword < "unevaluated")
  obtain ⟨after, second⟩ := part fun entry => !decide (entry.keyword < "unevaluated")
  refine ⟨.rules (before.flatten ++ after.flatten), ?_⟩
  rw [assemble_seventh]
  dsimp only
  rw [first, second]
  rfl

/-- What has a meaning as a schema allows the values that keep the rules of all its keywords. -/
theorem rules_of_assemble {entries : List KeywordEntry} {schema : Schema}
    (built : assemble seventh entries = .ok schema) :
    (∀ entry ∈ entries, seventh.knows entry.keyword = true →
      ∃ list, rules seventh entries entry = .ok list) ∧
    ∀ value, schema.allows value ↔ Keeps entries value := by
  rw [assemble_seventh] at built
  obtain ⟨before, first, onward⟩ := (bind_eq_ok_iff _ _ _).mp built
  obtain ⟨after, second, last⟩ := (bind_eq_ok_iff _ _ _).mp onward
  cases last
  have parts (entry : KeywordEntry) (member : entry ∈ entries)
      (known : seventh.knows entry.keyword = true) :
      entry ∈ (entries.filter (seventh.knows ·.keyword)).filter
        (fun entry => decide (entry.keyword < "unevaluated")) ∨
      entry ∈ (entries.filter (seventh.knows ·.keyword)).filter
        (fun entry => !decide (entry.keyword < "unevaluated")) := by
    simp [member, known]
  constructor
  · intro entry member known
    rcases parts entry member known with inside | inside
    · exact (exists_of_mapM first inside).imp fun _ held => held.2
    · exact (exists_of_mapM second inside).imp fun _ held => held.2
  · intro value
    rw [Schema.allows_rules, List.forall_mem_append, List.forall_mem_flatten,
      List.forall_mem_flatten, forall_mem_of_mapM first, forall_mem_of_mapM second]
    constructor
    · rintro ⟨early, late⟩ entry member known
      exact (parts entry member known).elim (early entry) (late entry)
    · intro keeps
      have each (choice : KeywordEntry → Bool) (entry : KeywordEntry)
          (member : entry ∈ (entries.filter (seventh.knows ·.keyword)).filter choice) :
          ∀ list, rules seventh entries entry = .ok list → ∀ rule ∈ list, rule.Allows value := by
        obtain ⟨inside, known⟩ := List.mem_filter.mp (List.mem_filter.mp member).1
        exact keeps entry inside known
      exact ⟨each _, each _⟩

/-- A keyword for a schema reads what has the form of one. -/
theorem keywordPart_schema (language : SchemaLanguage) {value : Json}
    (formed : value.isSchema = true) :
    keywordPart language .schema value = .schema (Schema.ofJson language value) := by
  cases value with
  | bool value => cases value <;> rfl
  | object => rw [keywordPart, Schema.ofJson]
  | _ => cases formed

variable {members : List (String × Json)} {keyword : String} {value : Json}

/-- A member that is found is one of the keywords. -/
theorem mem_keywordEntries (held : members.lookup keyword = some value) :
    ofMember seventh (keyword, value) ∈ keywordEntries seventh members := by
  rw [keywordEntries_eq]
  exact List.mem_map_of_mem (Table.mem_of_lookup members keyword value held)

/-- Whether a value keeps the rules of one keyword of a schema. -/
def KeepsMember (members : List (String × Json)) (body : Json) (member : String × Json) : Prop :=
  seventh.knows member.1 = true → ∀ list,
    rules seventh (keywordEntries seventh members) (ofMember seventh member) = .ok list →
      ∀ rule ∈ list, rule.Allows body

/-- A value keeps the rules of a schema if it keeps those of each member. -/
theorem keeps_iff (members : List (String × Json)) (body : Json) :
    Keeps (keywordEntries seventh members) body ↔
      ∀ member ∈ members, KeepsMember members body member := by
  have same := keywordEntries_eq seventh members
  unfold Keeps KeepsMember
  generalize keywordEntries seventh members = entries at same
  rw [same, List.forall_mem_map]
  rfl

/-- The schemas that a neighbour names, if it holds named schemas. -/
theorem namedOf_keywordEntries (named : keywordShape keyword = .named) :
    namedOf (keywordEntries seventh members) keyword =
      namedResults seventh ((members.lookup keyword).elim [] Json.members) := by
  rw [namedOf, find?_keywordEntries]
  cases members.lookup keyword with
  | none => rfl
  | some value =>
      rw [Option.map_some, ofMember, named]
      cases value <;> rfl

/-- Whether all keywords of a schema have a meaning. -/
def Compiles (members : List (String × Json)) : Prop :=
  ∀ entry ∈ keywordEntries seventh members, seventh.knows entry.keyword = true →
    ∃ list, rules seventh (keywordEntries seventh members) entry = .ok list

/-- A schema compiles if each keyword that is known has rules. -/
theorem compiles_iff (members : List (String × Json)) : Compiles members ↔
    ∀ member ∈ members, seventh.knows member.1 = true →
      ∃ list,
        rules seventh (keywordEntries seventh members) (ofMember seventh member) = .ok list := by
  have same := keywordEntries_eq seventh members
  unfold Compiles
  generalize keywordEntries seventh members = entries at same
  rw [same, List.forall_mem_map]
  rfl

/-- A keyword that names schemas for properties, as long as the additional properties do not take
them over. -/
structure NamedKeyword (τ : Type) where
  keyword : String
  compile : List (String × Json × SchemaResult) → Except Cause (List τ)
  rule : List τ → Rule
  known : seventh.knows keyword = true
  shape : keywordShape keyword = .named
  compile_nil : compile [] = .ok []
  rule_nil : ∀ value, (rule []).Allows value
  rules_plain : ∀ entries value, rules seventh entries ⟨keyword, value, .plain⟩ = .ok []
  rules_named : ∀ entries value found, rules seventh entries ⟨keyword, value, .named found⟩ =
    if restrictsProperties entries then Except.ok []
    else compile found >>= fun list => Except.ok [rule list]

def properties : NamedKeyword (String × Schema) where
  keyword := "properties"
  compile := compileNamed
  rule := .properties
  known := rfl
  shape := rfl
  compile_nil := rfl
  rule_nil _ := (Rule.allows_properties []).mpr nofun
  rules_plain _ _ := rfl
  rules_named _ _ _ := rfl

def patternProperties : NamedKeyword (String × Pattern × Schema) where
  keyword := "patternProperties"
  compile := compilePatterns
  rule := .patternProperties
  known := rfl
  shape := rfl
  compile_nil := rfl
  rule_nil _ := (Rule.allows_patternProperties []).mpr nofun
  rules_plain _ _ := rfl
  rules_named _ _ _ := rfl

/-- Named schemas have a meaning of their own, if no additional properties take them over. -/
theorem named_of_keeps {τ : Type} (named : NamedKeyword τ) (compiles : Compiles members)
    (own : restrictsProperties (keywordEntries seventh members) = false) :
    ∃ list, named.compile (namedOf (keywordEntries seventh members) named.keyword) = .ok list ∧
      ∀ value, Keeps (keywordEntries seventh members) value → (named.rule list).Allows value := by
  rw [namedOf_keywordEntries named.shape]
  cases held : members.lookup named.keyword with
  | none => exact ⟨[], named.compile_nil, fun value _ => named.rule_nil value⟩
  | some table =>
      have inside := mem_keywordEntries held
      cases table with
      | object entries =>
          have meaning := named.rules_named (keywordEntries seventh members) (.object entries)
            (namedResults seventh entries)
          rw [own, if_neg Bool.false_ne_true] at meaning
          rw [ofMember, named.shape] at inside
          obtain ⟨result, compiled⟩ := compiles _ inside named.known
          obtain ⟨list, made, last⟩ := (bind_eq_ok_iff _ _ _).mp (meaning ▸ compiled)
          cases last
          exact ⟨list, made, fun value keeps => keeps _ inside named.known _ compiled _ (.head _)⟩
      | _ => exact ⟨[], named.compile_nil, fun value _ => named.rule_nil value⟩

/-- The rules for additional properties are made of their own schema and the neighbours. -/
theorem rules_additionalProperties (entries : List KeywordEntry) {value : Json}
    (formed : value.isSchema = true) :
    rules seventh entries (ofMember seventh ("additionalProperties", value)) =
      additionalProperties entries value (Schema.ofJson seventh value) := by
  change rules seventh entries ⟨_, _, keywordPart seventh .schema value⟩ = _
  rw [keywordPart_schema seventh formed]
  rfl

/-- The members of an object keep the schemas for their names and the patterns they match, whether
or not the additional properties take those over. -/
theorem covers_of_keeps (compiles : Compiles members) : ∃ schemas patterns,
    compileNamed (namedOf (keywordEntries seventh members) "properties") = .ok schemas ∧
    compilePatterns (namedOf (keywordEntries seventh members) "patternProperties") = .ok patterns ∧
      ∀ body : Json, body.Sorted → Keeps (keywordEntries seventh members) body →
        ∀ member ∈ body.members, Rule.CoversMember schemas patterns member := by
  cases own : restrictsProperties (keywordEntries seventh members) with
  | false =>
      obtain ⟨schemas, first, named⟩ := named_of_keeps properties compiles own
      obtain ⟨patterns, second, matched⟩ := named_of_keeps patternProperties compiles own
      refine ⟨schemas, patterns, first, second, fun body sorted kept member below => ⟨?_, ?_⟩⟩
      · intro schema listed
        refine (Rule.allows_properties schemas).mp (named body kept) _
          (Table.mem_of_lookup _ _ _ listed) _ ?_
        rw [Json.member?_eq]
        exact sorted.here.lookup_of_mem below
      · intro entry listed matching
        exact (Rule.allows_patternProperties patterns).mp (matched body kept) entry listed
          member below matching
  | true =>
      rw [restrictsProperties, find?_keywordEntries] at own
      cases held : members.lookup "additionalProperties" with
      | none =>
          rw [held] at own
          cases own
      | some value =>
          rw [held] at own
          have inside := mem_keywordEntries held
          obtain ⟨list, compiled⟩ := compiles _ inside rfl
          have keeps (body : Json) (kept : Keeps (keywordEntries seventh members) body) :
              ∀ rule ∈ list, rule.Allows body := kept _ inside rfl list compiled
          cases value with
          | bool value =>
              cases value with
              | true => cases own
              | false =>
                  rw [rules_additionalProperties _ rfl, additionalProperties] at compiled
                  obtain ⟨patterns, second, onward⟩ := (bind_eq_ok_iff _ _ _).mp compiled
                  dsimp only at onward
                  split at onward
                  · next bare =>
                      simp only [Bool.not_eq_true', Option.isSome_eq_false_iff,
                        Option.isNone_iff_eq_none] at bare
                      refine ⟨[], [], ?_, ?_, fun _ _ _ _ _ => ⟨nofun, nofun⟩⟩
                      · rw [namedOf, bare.1]
                        rfl
                      · rw [namedOf, bare.2]
                        rfl
                  · obtain ⟨schemas, first, last⟩ := (bind_eq_ok_iff _ _ _).mp onward
                    cases last
                    refine ⟨schemas, patterns, first, second, fun body _ kept member below => ?_⟩
                    have allowed := keeps body kept _ (.head _)
                    exact ((Rule.allows_closedProperties schemas patterns).mp allowed member below).1
          | object =>
              rw [rules_additionalProperties _ rfl, additionalProperties] at compiled
              obtain ⟨patterns, second, onward⟩ := (bind_eq_ok_iff _ _ _).mp compiled
              obtain ⟨schemas, first, rest⟩ := (bind_eq_ok_iff _ _ _).mp onward
              obtain ⟨other, -, last⟩ := (bind_eq_ok_iff _ _ _).mp rest
              cases last
              refine ⟨schemas, patterns, first, second, fun body _ kept member below => ?_⟩
              have allowed := keeps body kept _ (.head _)
              exact ((Rule.allows_openProperties schemas patterns other).mp allowed member below).1
          | _ => cases own

end KeywordEntry

end ApiContract
