import ApiContract.Proofs.Schema.Dialect
import ApiContract.Proofs.Schema.Keywords

/-
This file proves that leaving references in a schema of the seventh draft only lets more values
through, where the references stand in places that loosen it.
-/

namespace ApiContract

open SchemaLanguage (seventh AsksSeventh)

namespace Effect

open Json KeywordEntry

variable {effect : Effect} {members members' : List (String × Json)}
variable {entries entries' : List KeywordEntry} {value value' : Json}

/-- The members of a schema with references left and those of the filled one, where the schemas
inside are known to track one another. -/
structure Leaves (effect : Effect) (members members' : List (String × Json)) : Prop where
  opens : List.Forall₂ (Table.SameKey fun keyword =>
    Opens (Slot.ofKeyword effect (Slot.neighbours members) keyword)) members members'
  inside : ∀ member ∈ members, ∀ inner, inner ≠ .inert → TracksInside inner member.2

namespace Leaves

variable (leaves : effect.Leaves members members')
include leaves

/-- A keyword is in both schemas or in none of them. -/
theorem lookup (keyword : String) :
    (members.lookup keyword = none ∧ members'.lookup keyword = none) ∨
      ∃ value value', members.lookup keyword = some value ∧ members'.lookup keyword = some value' ∧
        Opens (Slot.ofKeyword effect (Slot.neighbours members) keyword) value value' := by
  have found := Table.lookup_rel leaves.opens keyword
  generalize members.lookup keyword = given, members'.lookup keyword = given' at found ⊢
  cases found with
  | none => exact .inl ⟨rfl, rfl⟩
  | @some value value' opens => exact .inr ⟨value, value', rfl, rfl, opens⟩

/-- What is known of the values of all members is known of one that is found. -/
theorem inside_of_lookup {keyword : String} {value : Json}
    (held : members.lookup keyword = some value) (inner : Effect) (working : inner ≠ .inert) :
    TracksInside inner value :=
  leaves.inside _ (Table.mem_of_lookup _ _ _ held) inner working

/-- A keyword is found in both schemas or in none. -/
theorem isSome_eq (keyword : String) :
    (find? (keywordEntries seventh members) keyword).isSome =
      (find? (keywordEntries seventh members') keyword).isSome := by
  rw [find?_keywordEntries, find?_keywordEntries]
  rcases leaves.lookup keyword with ⟨absent, absent'⟩ | ⟨value, value', held, held', -⟩
  · rw [absent, absent']
  · rw [held, held']
    rfl

/-- A neighbour that holds one schema tracks the filled one. -/
theorem neighbour (working : effect ≠ .inert) {keyword : String}
    (slot : Slot.ofKeyword effect (Slot.neighbours members) keyword = .schema effect)
    (shape : keywordShape keyword = .schema) :
    effect.TracksNeighbour (keywordEntries seventh members) (keywordEntries seventh members')
      keyword := by
  rw [TracksNeighbour, find?_keywordEntries, find?_keywordEntries]
  rcases leaves.lookup keyword with ⟨absent, absent'⟩ | ⟨value, value', held, held', opens⟩
  · rw [absent, absent']
    exact .none
  · rw [held, held']
    refine .some ?_
    rw [slot] at opens
    change effect.TracksPart (keywordPart seventh (keywordShape keyword) value)
      (keywordPart seventh (keywordShape keyword) value')
    rw [shape]
    exact tracksPart_schema opens (leaves.inside_of_lookup held effect working)

/-- A neighbour that names schemas tracks the filled one, if the table itself is no reference. -/
theorem names (working : effect ≠ .inert) {keyword : String}
    (slot : Slot.ofKeyword effect (Slot.neighbours members) keyword = .table effect false)
    (shape : keywordShape keyword = .named) :
    effect.TracksNames (keywordEntries seventh members) (keywordEntries seventh members')
      keyword := by
  refine ⟨leaves.isSome_eq keyword, ?_⟩
  rw [namedOf, namedOf, find?_keywordEntries, find?_keywordEntries]
  rcases leaves.lookup keyword with ⟨absent, absent'⟩ | ⟨value, value', held, held', opens⟩
  · rw [absent, absent']
    exact .nil
  · rw [held, held']
    rw [slot] at opens
    have tracks := tracksTable opens (leaves.inside_of_lookup held effect working)
    rw [← shape] at tracks
    simp only [Option.map_some, ofMember]
    generalize keywordPart seventh (keywordShape keyword) value = part,
      keywordPart seventh (keywordShape keyword) value' = part' at tracks ⊢
    cases tracks with
    | plain => exact .nil
    | named _ _ each => exact each
    | opened _ admits => cases admits

/-- Beside additional properties, the tables of properties stay as they are themselves. -/
theorem tables (working : effect ≠ .inert) {value : Json}
    (listed : ("additionalProperties", value) ∈ members) :
    effect.TracksNames (keywordEntries seventh members) (keywordEntries seventh members')
        "properties" ∧
      effect.TracksNames (keywordEntries seventh members) (keywordEntries seventh members')
        "patternProperties" := by
  have closed : (effect == .inert || effect == .loosens &&
      !(Slot.neighbours members).contains "additionalProperties") = false := by
    rw [contains_neighbours_of_mem (by decide) listed]
    cases effect with
    | inert => contradiction
    | _ => rfl
  have slot := congrArg (Slot.table effect) closed
  exact ⟨leaves.names working slot rfl, leaves.names working slot rfl⟩

/-- Both schemas start the other items at the same place. -/
theorem ownItems_eq : ownItems (keywordEntries seventh members) =
    ownItems (keywordEntries seventh members') := by
  rw [ownItems, ownItems, find?_keywordEntries, find?_keywordEntries]
  rcases leaves.lookup "prefixItems" with ⟨absent, absent'⟩ | ⟨value, value', held, held', opens⟩
  · rw [absent, absent']
  · have counted (node : Json) : node.items.length = (node.array?.map List.length).getD 0 := by
      cases node <;> rfl
    rw [held, held', Option.map_some, Option.map_some, Option.map_some, Option.map_some, counted,
      counted]
    exact congrArg (·.getD 0) opens.array?_length

/-- Both schemas list equally many items. -/
theorem listedItems_eq : listedItems (keywordEntries seventh members) =
    listedItems (keywordEntries seventh members') := by
  rw [listedItems, listedItems, find?_keywordEntries, find?_keywordEntries]
  rcases leaves.lookup "items" with ⟨absent, absent'⟩ | ⟨value, value', held, held', opens⟩
  · rw [absent, absent']
  · rw [held, held']
    exact opens.array?_length

/-- Properties are taken over alike, unless the additional ones are left. -/
theorem restricts : restrictsProperties (keywordEntries seventh members) =
      restrictsProperties (keywordEntries seventh members') ∨
    (Slot.schema effect).admits = true ∧
      restrictsProperties (keywordEntries seventh members) = true := by
  rw [restrictsProperties, restrictsProperties, find?_keywordEntries, find?_keywordEntries]
  rcases leaves.lookup "additionalProperties" with
    ⟨absent, absent'⟩ | ⟨value, value', held, held', opens⟩
  · rw [absent, absent']
    exact .inl rfl
  · rw [held, held']
    cases opens with
    | opened _ _ admits => exact .inr ⟨admits, rfl⟩
    | plain => exact .inl rfl
    | array => exact .inl rfl
    | object => exact .inl rfl

/-- The neighbours of a content keyword are the same, as far as it reads them. -/
theorem content : Option.Rel (fun given given' => given = given' ∨
      given.value.string? = none ∧ given'.value.string? = none)
    (find? (keywordEntries seventh members) "contentEncoding")
      (find? (keywordEntries seventh members') "contentEncoding") := by
  rw [find?_keywordEntries, find?_keywordEntries]
  rcases leaves.lookup "contentEncoding" with
    ⟨absent, absent'⟩ | ⟨value, value', held, held', opens⟩
  · rw [absent, absent']
    exact .none
  · rw [held, held']
    refine .some ?_
    cases typed : value'.string? with
    | none => exact .inr ⟨opens.string?.trans typed, typed⟩
    | some text =>
        cases value' with
        | string => exact .inl (by rw [opens.eq_of_leaf rfl rfl])
        | _ => cases typed

end Leaves

/-- The keywords of a schema with references left track those of the filled one, unless the
additional properties are left themselves. -/
theorem tracks_keyword (leaves : effect.Leaves members members') (working : effect ≠ .inert)
    {keyword : String} (known : seventh.knows keyword = true)
    (listed : (keyword, value) ∈ members)
    (opens : Opens (Slot.ofKeyword effect (Slot.neighbours members) keyword) value value') :
    Tracks effect.RelatesRules
      (rules seventh (keywordEntries seventh members) (ofMember seventh (keyword, value)))
      (rules seventh (keywordEntries seventh members') (ofMember seventh (keyword, value'))) ∨
    (keyword = "additionalProperties" ∧ value = .object []) ∧ effect = .loosens := by
  have inside := leaves.inside _ listed
  have loosens (admits : (Slot.schema effect).admits = true) : effect = .loosens :=
    (admits_iff working).mp admits
  have restricts := leaves.restricts.imp_right fun taken => And.imp_left loosens taken
  rcases knows_cases known with scalar | content | fixed | schema
  · obtain ⟨slot, shape⟩ := ofKeyword_plain (Slot.neighbours members) (.inl scalar)
    rw [slot] at opens
    rw [ofMember, ofMember, shape, keywordPart_plain, keywordPart_plain]
    exact .inl (tracks_same fun list => rules_of_scalar scalar opens _ _)
  · obtain ⟨slot, shape⟩ := ofKeyword_plain (Slot.neighbours members) (.inr content)
    rw [slot] at opens
    have media : (find? (keywordEntries seventh members) "contentMediaType").isNone =
        (find? (keywordEntries seventh members') "contentMediaType").isNone := by
      rw [← Option.not_isSome, ← Option.not_isSome, leaves.isSome_eq]
    rw [ofMember, ofMember, shape, keywordPart_plain, keywordPart_plain, rules_content _ _ content,
      rules_content _ _ content, contentRule?_of_opens opens leaves.content media]
    exact .inl (tracks_same fun _ => id)
  · exact .inl (tracks_fixed working fixed opens)
  · simp only [schemaKeywords, List.mem_cons, List.not_mem_nil, or_false] at schema
    rcases schema with rfl | rfl | rfl | rfl | rfl | rfl | rfl | rfl | rfl | rfl | rfl | rfl | rfl
    · exact .inl (tracks_additionalItems working (inside effect working) opens
        contains_items_of_listed leaves.listedItems_eq)
    · obtain ⟨named, matched⟩ := leaves.tables working listed
      exact (tracks_additionalProperties (inside effect working) named matched opens).imp_right
        fun left => ⟨⟨rfl, left.1⟩, loosens left.2⟩
    · exact .inl (tracks_several (fun _ _ => rfl) (fun _ _ _ => rfl) (fun _ _ _ => rfl)
        (fun _ _ => relates_allOf) (tracksPart_list opens (inside effect working)))
    · exact .inl (tracks_several (fun _ _ => rfl) (fun _ _ _ => rfl) (fun _ _ _ => rfl)
        (fun _ _ => relates_anyOf) (tracksPart_list opens (inside effect working)))
    · exact .inl (tracks_single (fun _ _ => rfl) (fun _ _ _ => rfl) (fun _ _ _ => rfl)
        (fun _ _ => relates_contains false) (tracksPart_schema opens (inside effect working)))
    · exact .inl (tracks_dependencies _ loosens (tracksTable opens (inside effect working)))
    · have slot := congrArg Slot.schema
        (if_pos (contains_neighbours_of_mem (by decide) listed) :
          (if (Slot.neighbours members).contains "if" then effect else .inert) = effect)
      refine .inl (tracks_if working inside (leaves.neighbour working slot rfl)
        (leaves.neighbour working slot rfl) ?_)
      rw [← contains_neighbours members (by decide), ← contains_neighbours members (by decide)]
      exact opens
    · exact .inl (tracks_items leaves.ownItems_eq
        (tracksPart_schemaOrList opens (inside effect working)))
    · exact .inl (tracks_single (fun _ _ => rfl) (fun _ _ _ => rfl) (fun _ _ _ => rfl)
        (fun _ _ => relates_negation value value')
        (tracksPart_schema opens (inside _ (flip_ne_inert working))))
    · rw [show Slot.ofKeyword effect (Slot.neighbours members) "oneOf" = .schema .keeps from
        congrArg Slot.schema (still_of_working working)] at opens
      exact .inl (tracks_several (fun _ _ => rfl) (fun _ _ _ => rfl) (fun _ _ _ => rfl)
        (fun _ _ => relates_oneOf) (tracksPart_list opens (inside .keeps (by decide))))
    · exact .inl (tracks_named patternProperties (fun _ _ => tracks_compilePatterns)
        (fun _ _ => relates_patternProperties) (loosens_of_own working) restricts
        (tracksTable opens (inside effect working)))
    · exact .inl (tracks_named properties (fun _ _ => tracks_compileNamed)
        (fun _ _ => relates_properties) (loosens_of_own working) restricts
        (tracksTable opens (inside effect working)))
    · exact .inl (tracks_propertyNames working (inside effect working) opens)

/-- Additional properties that are left allow what the filled schema allows: the other members of an
object are free, and the filled schema checks the named ones itself. -/
theorem allows_of_left (leaves : effect.Leaves members members') (loosens : effect = .loosens)
    (listed : ("additionalProperties", .object []) ∈ members) (compiles' : Compiles members') :
    ∃ list, rules seventh (keywordEntries seventh members)
        (ofMember seventh ("additionalProperties", .object [])) = .ok list ∧
      ∀ body : Json, body.Sorted → Keeps (keywordEntries seventh members') body →
        ∀ rule ∈ list, rule.Allows body := by
  subst loosens
  obtain ⟨named, matched⟩ := leaves.tables (by decide) listed
  obtain ⟨schemas', patterns', first', second', covers⟩ := covers_of_keeps compiles'
  obtain ⟨schemas, first, same⟩ := tracks_compileNamed named.named schemas' first'
  obtain ⟨patterns, second, alike⟩ := tracks_compilePatterns matched.named patterns' second'
  refine ⟨[.openProperties schemas patterns (.rules [])], ?_, fun body sorted keeps rule only => ?_⟩
  · rw [rules_additionalProperties _ rfl, additionalProperties, first, second]
    rfl
  · rw [List.mem_singleton.mp only, Rule.allows_openProperties]
    exact fun member below => ⟨implies_coversMember same alike member (sorted.value below)
      (covers body sorted keeps member below), fun _ => allows_empty _⟩

/-- Rules that track others allow what an effect says. -/
theorem implies_of_tracks {result result' : Except Cause (List Rule)} {body : Json}
    (tracks : Tracks effect.RelatesRules result result') (made : ∃ list, result' = .ok list)
    (sorted : body.Sorted) : effect.Implies
      (∀ list, result = .ok list → ∀ rule ∈ list, rule.Allows body)
      (∀ list, result' = .ok list → ∀ rule ∈ list, rule.Allows body) := by
  obtain ⟨list', rfl⟩ := made
  obtain ⟨list, rfl, related⟩ := tracks list' rfl
  have implies := related body sorted
  rw [Schema.allows_rules, Schema.allows_rules] at implies
  simpa using implies

/-- The members of a schema track those of the filled one, with the same exception. -/
theorem tracks_member (leaves : effect.Leaves members members') (working : effect ≠ .inert)
    {member member' : String × Json} (listed : member ∈ members)
    (same : Table.SameKey
      (fun keyword => Opens (Slot.ofKeyword effect (Slot.neighbours members) keyword))
      member member') (known : seventh.knows member.1 = true) :
    Tracks effect.RelatesRules
        (rules seventh (keywordEntries seventh members) (ofMember seventh member))
        (rules seventh (keywordEntries seventh members') (ofMember seventh member')) ∨
      member = ("additionalProperties", .object []) ∧ effect = .loosens := by
  obtain ⟨keyword, value⟩ := member
  obtain ⟨keyword', value'⟩ := member'
  obtain ⟨alike, opens⟩ := same
  obtain rfl : keyword = keyword' := alike
  exact (tracks_keyword leaves working known listed opens).imp_right
    fun left => ⟨Prod.ext left.1.1 left.1.2, left.2⟩

/-- The keywords of a schema with references left have rules if those of the filled one do. -/
theorem compiles_of_filled (leaves : effect.Leaves members members') (working : effect ≠ .inert)
    (compiles' : Compiles members') : Compiles members := by
  refine (compiles_iff members).mpr fun member listed known => ?_
  obtain ⟨member', listed', same⟩ := exists_of_forall₂ leaves.opens member listed
  rcases tracks_member leaves working listed same known with tracks | ⟨rfl, loosens⟩
  · obtain ⟨list', own'⟩ := (compiles_iff members').mp compiles' member' listed' (same.1 ▸ known)
    exact (tracks list' own').imp fun _ held => held.1
  · exact (allows_of_left leaves loosens listed compiles').imp fun _ held => held.1

/-- Where a change loosens, additional properties that are left are a case of their own. -/
theorem keeps_of_filled (leaves : loosens.Leaves members members') (compiles' : Compiles members')
    {body : Json} (sorted : body.Sorted) (keeps' : Keeps (keywordEntries seventh members') body) :
    Keeps (keywordEntries seventh members) body := by
  rw [keeps_iff]
  intro member listed known
  obtain ⟨member', listed', same⟩ := exists_of_forall₂ leaves.opens member listed
  rcases tracks_member leaves (by decide) listed same known with tracks | ⟨rfl, -⟩
  · have known' : seventh.knows member'.1 = true := same.1 ▸ known
    exact implies_of_tracks tracks ((compiles_iff members').mp compiles' member' listed' known')
      sorted ((keeps_iff members' body).mp keeps' member' listed' known')
  · obtain ⟨list, own, all⟩ := allows_of_left leaves rfl listed compiles'
    intro list' own'
    cases own.symm.trans own'
    exact all body sorted keeps'

/-- Elsewhere a schema keeps its rules before and after as its keywords do one by one. -/
theorem implies_keeps (leaves : effect.Leaves members members') (working : effect ≠ .inert)
    (others : effect ≠ .loosens) (compiles' : Compiles members') {body : Json}
    (sorted : body.Sorted) : effect.Implies (Keeps (keywordEntries seventh members) body)
      (Keeps (keywordEntries seventh members') body) := by
  rw [keeps_iff, keeps_iff]
  refine implies_forall_mem (forall₂_imp_of_mem leaves.opens ?_)
  rintro ⟨keyword, value⟩ listed ⟨keyword', value'⟩ listed' same
  obtain rfl : keyword = keyword' := same.1
  refine implies_forall fun known => ?_
  rcases tracks_member leaves working listed same known with tracks | ⟨-, loosens⟩
  · exact implies_of_tracks tracks ((compiles_iff members').mp compiles' _ listed' known) sorted
  · exact absurd loosens others

/-- A schema with references left tracks the filled one if the schemas inside it do. -/
theorem tracks_assembled (leaves : effect.Leaves members members') (working : effect ≠ .inert) :
    Tracks effect.Relates (assemble seventh (keywordEntries seventh members))
      (assemble seventh (keywordEntries seventh members')) := by
  intro schema' built'
  obtain ⟨compiles', means'⟩ := rules_of_assemble built'
  obtain ⟨schema, built⟩ := assemble_of_rules (compiles_of_filled leaves working compiles')
  refine ⟨schema, built, fun body sorted => ?_⟩
  rw [means' body, (rules_of_assemble built).2 body]
  by_cases loosened : effect = .loosens
  · subst loosened
    exact keeps_of_filled leaves compiles' sorted
  · exact implies_keeps leaves working loosened compiles' sorted

end Effect

namespace Json

variable {node node' : Json}

open SchemaDialect (height)

/-- Leaving references changes the draft of no schema that stays. -/
theorem asked?_of_opens {slot : Slot} {members members' : List (String × Json)}
    (entries : List.Forall₂ (Table.SameKey fun keyword =>
      Opens (slot.member (Slot.neighbours members) keyword)) members members') :
    Draft.asked? (Json.object members) = Draft.asked? (Json.object members') := by
  have found := Table.lookup_rel entries "$schema"
  simp only [Draft.asked?, member?]
  generalize members.lookup "$schema" = value, members'.lookup "$schema" = value' at found ⊢
  cases found with
  | none => rfl
  | some opens => exact opens.string?

/-- The schema of a document with references left tracks that of the filled document, by induction
on the height of the document. -/
theorem tracks_of_opens (bound : Nat) (effect : Effect) (working : effect ≠ .inert)
    (low : height node ≤ bound) (asks : node.Everywhere AsksSeventh)
    (opens : Opens (.schema effect) node node') :
    Tracks effect.Relates (Schema.ofJson seventh node) (Schema.ofJson seventh node') := by
  induction bound generalizing effect node node' with
  | zero =>
      have := SchemaDialect.one_le_height node
      omega
  | succ bound ih =>
      cases opens with
      | opened _ _ admits =>
          rw [(Effect.admits_iff working).mp admits]
          exact fun schema' _ => ⟨.rules [], rfl, fun body _ _ => Effect.allows_empty body⟩
      | plain => exact fun schema made => ⟨schema, made, effect.relates_refl schema⟩
      | array => exact nofun
      | object _ members members' keys each =>
          have entries := Table.forall₂_entries (fun keyword =>
            Opens ((Slot.schema effect).member (Slot.neighbours members) keyword)) keys each
          have asks' : AsksSeventh (Json.object members') := by
            intro name named
            exact asks.here name ((asked?_of_opens entries).trans named)
          rw [Schema.ofJson, Schema.ofJson, SchemaLanguage.inside_seventh asks.here,
            SchemaLanguage.inside_seventh asks']
          refine Effect.tracks_assembled ⟨entries, ?_⟩ working
          intro member listed inner works value value' within below
          have child : member.2 ∈ (Json.object members).children :=
            List.mem_map.mpr ⟨member, listed, rfl⟩
          have lower := SchemaDialect.height_child child
          rcases within with rfl | deeper
          · exact ih inner works (by omega) (asks.child _ child) below
          · have lowest := SchemaDialect.height_child deeper
            exact ih inner works (by omega) ((asks.child _ child).child _ deeper) below

/-- A document without its references asks for the draft that it asked for. -/
theorem asked?_stripped (members : List (String × Json)) :
    Draft.asked? (object members) = Draft.asked?
      (object (members.map fun member => (member.1, member.2.stripReferences))) := by
  have same : List.Forall₂ (Table.SameKey fun _ value stripped => stripped = value.stripReferences)
      members (members.map fun member => (member.1, member.2.stripReferences)) :=
    List.forall₂_map_right_iff.mpr (List.forall₂_same.mpr fun _ _ => ⟨rfl, rfl⟩)
  have found := Table.lookup_rel same "$schema"
  simp only [Draft.asked?, member?]
  generalize members.lookup "$schema" = value, List.lookup "$schema" (members.map _) = value'
    at found ⊢
  cases found with
  | none => rfl
  | @some value _ stripped =>
      subst stripped
      exact value.string?_stripReferences.symm

/-- A document without its references asks for no other draft than before. -/
theorem Everywhere.stripReferences (asks : node.Everywhere AsksSeventh) :
    node.stripReferences.Everywhere AsksSeventh := by
  induction asks with
  | intro node here below ih =>
      cases refers : node.reference? with
      | some text =>
          rw [stripReferences_reference refers]
          exact .intro _ (fun _ asked => by cases asked) (fun _ absent => by cases absent)
      | none =>
          cases node with
          | array items =>
              rw [stripReferences_array]
              exact .intro _ (fun _ asked => by cases asked) (List.forall_mem_map.mpr ih)
          | object members =>
              rw [stripReferences_object refers]
              refine .intro _ (fun name asked => here name ?_) ?_
              · rw [← asked, asked?_stripped]
              · rw [children, List.map_map, List.forall_mem_map]
                exact fun member listed => ih member.2 (List.mem_map.mpr ⟨member, listed, rfl⟩)
          | _ => exact .intro _ here fun _ absent => by cases absent

end Json

/-- A root of the seventh draft is read like any schema of it. -/
theorem Schema.ofRoot_seventh {document : Json} (asks : AsksSeventh document) :
    Schema.ofRoot document = Schema.ofJson seventh document := by
  unfold Schema.ofRoot
  rw [SchemaLanguage.ofDocument_seventh asks]
  cases document with
  | object members =>
      rw [Schema.ofJson, SchemaLanguage.inside_seventh asks]
  | _ => rfl

/-- A schema is made of a document that is identified, fits and can be read. -/
theorem Schema.ofDocument_eq_ok_iff (document : Json) (schema : Schema) :
    Schema.ofDocument document = .ok schema ↔
      SchemaIdentifier.firstFault? (SchemaDialect.height document.stripReferences)
          document.stripReferences = none ∧
        SchemaDialect.firstCause? document.stripReferences = none ∧
          Schema.ofRoot document.stripReferences = .ok schema := by
  unfold Schema.ofDocument
  rw [document.withoutReferences_eq]
  dsimp only
  constructor
  · intro formed
    split at formed
    · cases formed
    · next sound =>
        split at formed
        · cases formed
        · next fit =>
            split at formed
            · next built =>
                cases formed
                exact ⟨sound, fit, built⟩
            · cases formed
  · rintro ⟨sound, fit, built⟩
    rw [sound, fit, built]

/-- A check succeeds if the document is a schema that allows the value. -/
theorem check_eq_ok_iff (document value : Json) : check document value = .ok () ↔
    ∃ schema, Schema.ofDocument document = .ok schema ∧ schema.allows value := by
  unfold check
  cases Schema.ofDocument document with
  | error => exact ⟨nofun, fun ⟨_, failed, _⟩ => nomatch failed⟩
  | ok schema =>
      dsimp only
      have allows := Schema.findings_eq_nil_iff value .root schema .root
      constructor
      · intro passes
        split at passes
        · next none => exact ⟨schema, rfl, allows.mp none⟩
        · cases passes
      · rintro ⟨_, same, held⟩
        cases same
        rw [allows.mpr held]

/-- The schema of a document with references left tracks that of the filled document. -/
theorem Schema.tracks_ofRoot {node node' : Json} (asks : node.Everywhere AsksSeventh)
    (opens : Json.Opens (.schema .loosens) node node') :
    Tracks Effect.loosens.Relates (Schema.ofRoot node) (Schema.ofRoot node') := by
  have held := Json.tracks_of_opens (SchemaDialect.height node) .loosens (by decide) (le_refl _)
    asks opens
  rw [← Schema.ofRoot_seventh asks.here] at held
  cases opens with
  | opened => exact fun _ _ => ⟨.rules [], rfl, fun body _ _ => Effect.allows_empty body⟩
  | plain => rwa [← Schema.ofRoot_seventh asks.here] at held
  | array => exact nofun
  | object _ members members' keys each =>
      have entries := Table.forall₂_entries (fun keyword =>
        Json.Opens ((Slot.schema .loosens).member (Slot.neighbours members) keyword)) keys each
      rwa [← Schema.ofRoot_seventh] at held
      intro name named
      exact asks.here name ((Json.asked?_of_opens entries).trans named)

/-- What a filled schema lets through also passes while references are left in the schema, if they
stand where leaving them loosens it. -/
theorem check_of_check_filled {schema filled body : Json} (fills : schema.Fills filled)
    (placed : schema.placed (.schema .loosens) = true) (asks : schema.Everywhere AsksSeventh)
    (sorted : body.Sorted) (passes : check filled body = .ok ()) : check schema body = .ok () := by
  obtain ⟨built', formed', allowed'⟩ := (check_eq_ok_iff filled body).mp passes
  obtain ⟨sound', fit', rooted'⟩ := (Schema.ofDocument_eq_ok_iff filled built').mp formed'
  have opens := fills.opens _ placed
  obtain ⟨built, rooted, relates⟩ := Schema.tracks_ofRoot asks.stripReferences opens built' rooted'
  have sound := SchemaIdentifier.firstFault?_of_opens (opens.narrow (.free _)) sound'
  have fit := SchemaDialect.firstCause?_of_opens opens fit'
  have formed := (Schema.ofDocument_eq_ok_iff schema built).mpr ⟨sound, fit, rooted⟩
  exact (check_eq_ok_iff schema body).mpr ⟨built, formed, relates body sorted allowed'⟩

/-- Below `oneOf` a reference may be left where no check looks at it. -/
example : let left := Json.object [("$ref", .string "#/schemas/Name")]
    let alternative := Json.object [("definitions", .object [("Name", left)]),
      ("type", .string "object")]
    (Json.object [("oneOf", .array [alternative])]).placed (.schema .loosens) = true ∧
      (Json.object [("oneOf", .array [left])]).placed (.schema .loosens) = false := by
  decide +kernel

namespace LeftReference

/-- A person whose parent is a person again: a recursive reference that was left. -/
def person : Json :=
  .object [("properties", .object [("parent", .object [("$ref", .string "#/schemas/Person")])]),
    ("type", .string "object")]

def personFilled : Json :=
  .object [("properties", .object [("parent", .object [("required", .array [.string "name"])])]),
    ("type", .string "object")]

def ann : Json := .object [("name", .string "Ann"), ("parent", .object [("name", .string "Eve")])]

/-- A schema that forbids what a reference leads to. -/
def forbidden : Json := .object [("not", .object [("$ref", .string "#/schemas/Name")])]

def forbiddenFilled : Json := .object [("not", .object [("type", .string "string")])]

theorem person_fills : person.Fills personFilled := by
  refine .of_members rfl (.cons ⟨rfl, ?_⟩ (.cons ⟨rfl, .plain _ rfl rfl⟩ .nil))
  refine .of_members rfl (.cons ⟨rfl, ?_⟩ .nil)
  exact .filled _ _ "#/schemas/Person" _ rfl rfl

theorem forbidden_fills : forbidden.Fills forbiddenFilled :=
  .of_members rfl (.cons ⟨rfl, .filled _ _ "#/schemas/Name" _ rfl rfl⟩ .nil)

theorem ann_sorted : ann.Sorted := by
  refine (Json.sorted_object _).mpr ⟨Json.sortMembers_ordered
    [("name", .string "Ann"), ("parent", .object [("name", .string "Eve")])], ?_⟩
  simp [Table.InOrder]

/-- What asks for no draft asks for the seventh at most, if its children do. -/
theorem asks_of_children {node : Json} (unnamed : Draft.asked? node = none)
    (below : ∀ child ∈ node.children, child.Everywhere AsksSeventh) :
    node.Everywhere AsksSeventh :=
  .intro node (SchemaLanguage.asksSeventh_of_none unnamed) below

theorem person_asks : person.Everywhere AsksSeventh := by
  have leaf (text : String) : (Json.string text).Everywhere AsksSeventh :=
    asks_of_children rfl nofun
  have parent : (Json.object [("$ref", .string "#/schemas/Person")]).Everywhere AsksSeventh :=
    asks_of_children rfl (List.forall_mem_singleton.mpr (leaf _))
  have table : (Json.object [("parent", .object [("$ref", .string "#/schemas/Person")])]).Everywhere
      AsksSeventh :=
    asks_of_children rfl (List.forall_mem_singleton.mpr parent)
  exact asks_of_children rfl
    (List.forall_mem_cons.mpr ⟨table, List.forall_mem_singleton.mpr (leaf "object")⟩)

theorem forbidden_asks : forbidden.Everywhere AsksSeventh := by
  have leaf : (Json.string "#/schemas/Name").Everywhere AsksSeventh := asks_of_children rfl nofun
  have inner : (Json.object [("$ref", .string "#/schemas/Name")]).Everywhere AsksSeventh :=
    asks_of_children rfl (List.forall_mem_singleton.mpr leaf)
  exact asks_of_children rfl (List.forall_mem_singleton.mpr inner)

/-- A person passes while the schema of the parent is left. -/
theorem person_passes_left : person.Fills personFilled ∧
    person.placed (.schema .loosens) = true ∧ person.Everywhere AsksSeventh ∧ ann.Sorted ∧
      check personFilled ann = .ok () ∧ check person ann = .ok () :=
  ⟨person_fills, rfl, person_asks, ann_sorted, rfl,
    check_of_check_filled person_fills rfl person_asks ann_sorted rfl⟩

/-- Below a negation, leaving a reference forbids values that the filled schema lets through. -/
theorem negation_tightens_left : ¬∀ schema filled body : Json, schema.Fills filled →
    schema.Everywhere AsksSeventh → body.Sorted → check filled body = .ok () →
      check schema body = .ok () := by
  intro holds
  have sorted : (Json.integer 5).Sorted := .intro _ .nil nofun
  have passes := holds forbidden forbiddenFilled (.integer 5) forbidden_fills forbidden_asks
    sorted rfl
  cases passes

end LeftReference

end ApiContract
