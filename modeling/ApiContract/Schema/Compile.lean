import ApiContract.Format
import ApiContract.Schema.Basic
import ApiContract.Schema.Vocabulary

/-
This file builds the schema of a document. A keyword may depend on its neighbours: the additional
items and properties are those that the neighbours leave over, and a condition takes its branches
from them.
-/

namespace ApiContract

/-- A document read as a schema, or the reason why it has no meaning as one. -/
abbrev SchemaResult := Except Cause Schema

/-- The schemas inside the value of a keyword. -/
inductive KeywordPart where
  | plain
  | schema (result : SchemaResult)
  | list (results : List SchemaResult)
  | named (entries : List (String × Json × SchemaResult))

/-- How the value of a keyword holds schemas. -/
inductive KeywordShape where
  | plain
  | schema
  | list
  | schemaOrList
  | named

def keywordShape (keyword : String) : KeywordShape :=
  match keyword with
  | "additionalItems" | "additionalProperties" | "contains" | "if" | "then" | "else" | "not"
  | "propertyNames" | "unevaluatedItems" | "unevaluatedProperties" => .schema
  | "allOf" | "anyOf" | "oneOf" | "prefixItems" => .list
  | "items" => .schemaOrList
  | "properties" | "patternProperties" | "dependencies" | "dependentRequired"
  | "dependentSchemas" => .named
  | _ => .plain

/-- A member of a document with the schemas inside it. -/
structure KeywordEntry where
  keyword : String
  value : Json
  part : KeywordPart

/-- The limit that a number sets on a size; a limit beyond 64 bits is the greatest one. Since the
sixth draft, the limit may be written with a fraction of zero. -/
def sizeLimit (draft : Draft) (value : Json) : Except Cause Nat :=
  match value with
  | .number (.integer limit) =>
      if 0 ≤ limit then .ok limit.toNat else .error (.outOfBound value .atLeast (.integer 0))
  | .number (.float limit) =>
      if draft.since .draft6 ∧ limit.isInteger then
        .ok (min limit.floor.toNat (Nat.pow 2 64 - 1))
      else .error (.wrongType value [.integer])
  | _ => .error (.wrongType value [.integer])

/-- The types of a list, in their own order and without repetition. -/
def typeList (names : List String) : List ValueType :=
  ValueType.all.filter fun type => type.name ∈ names

def stringsOf (value : Json) : List String := value.items.filterMap Json.string?

namespace KeywordEntry

def find? (entries : List KeywordEntry) (keyword : String) : Option KeywordEntry :=
  entries.find? (·.keyword == keyword)

/-- The schema of a neighbour that holds one schema. -/
def schemaOf (entries : List KeywordEntry) (keyword : String) :
    Except Cause (Option Schema) :=
  match find? entries keyword with
  | some ⟨_, _, .schema result⟩ => result.map some
  | _ => .ok none

def compileNamed (entries : List (String × Json × SchemaResult)) :
    Except Cause (List (String × Schema)) :=
  entries.mapM fun (key, _, result) => result.map (key, ·)

def compilePatterns (entries : List (String × Json × SchemaResult)) :
    Except Cause (List (String × Pattern × Schema)) :=
  entries.mapM fun (source, value, result) =>
    match Pattern.compile? source with
    | some pattern => result.map (source, pattern, ·)
    | none => .error (.wrongFormat value "regex")

/-- The named schemas of a neighbour. -/
def namedOf (entries : List KeywordEntry) (keyword : String) :
    List (String × Json × SchemaResult) :=
  match find? entries keyword with
  | some ⟨_, _, .named found⟩ => found
  | _ => []

/-- Whether the additional properties take over the rules of their neighbours. -/
def restrictsProperties (entries : List KeywordEntry) : Bool :=
  match find? entries "additionalProperties" with
  | some ⟨_, .bool false, _⟩ => true
  | some ⟨_, .object _, _⟩ => true
  | _ => false

def additionalProperties (entries : List KeywordEntry) (value : Json) (result : SchemaResult) :
    Except Cause (List Rule) := do
  let hasProperties := (find? entries "properties").isSome
  let hasPatterns := (find? entries "patternProperties").isSome
  let patterns ← compilePatterns (namedOf entries "patternProperties")
  match value with
  | .bool true => return [.openProperties [] [] .anything]
  | .bool false =>
      if !hasProperties ∧ !hasPatterns then return [.noProperties]
      let schemas ← compileNamed (namedOf entries "properties")
      return [.closedProperties schemas patterns]
  | _ =>
      let schemas ← compileNamed (namedOf entries "properties")
      return [.openProperties schemas patterns (← result)]

def dependency (key : String) (value : Json) (result : SchemaResult) : Except Cause Rule :=
  match value with
  | .array _ => .ok (.requiredWith "dependencies" key (stringsOf value))
  | _ => result.map (.schemaWith "dependencies" key ·)

/-- The keys of a list, which are distinct texts. -/
def requiredKeys (value : Json) : Except Cause (List String) :=
  match value with
  | .array items =>
      if !Json.allDistinct items then .error (.notUnique value)
      else
        items.mapM fun item =>
          match item with
          | .string key => .ok key
          | other => .error (.wrongType other [.string])
  | _ => .error (.wrongType value [.array])

/-- The limits on contained items. They have neighbours of their own since 2019, and since 2020 a
contained item counts as evaluated. -/
def containedLimits (draft : Draft) (entries : List KeywordEntry) :
    Except Cause ContainedLimits := do
  let limit := fun keyword =>
    match if draft.since .draft2019 then find? entries keyword else none with
    | some entry => (sizeLimit draft entry.value).map some
    | none => .ok none
  let least ← limit "minContains"
  let most ← limit "maxContains"
  return ⟨least, most, draft.since .draft2020⟩

/-- The number of the items that have schemas of their own at the start of an array. -/
def ownItems (entries : List KeywordEntry) : Nat :=
  ((find? entries "prefixItems").map fun entry => entry.value.items.length).getD 0

/-- The rules of a keyword whose value holds schemas. -/
def schemaRules (language : SchemaLanguage) (entries : List KeywordEntry)
    (entry : KeywordEntry) : Except Cause (List Rule) := do
  match entry.keyword, entry.part with
  | "additionalItems", .schema result =>
      match find? entries "items", entry.value with
      | some ⟨_, .array items, _⟩, .bool false => return [.noMoreItems items.length]
      | some ⟨_, .array items, _⟩, _ => return [.moreItems items.length (← result)]
      | _, _ => return []
  | "additionalProperties", .schema result => additionalProperties entries entry.value result
  | "contains", .schema result =>
      let limits ← containedLimits language.draft entries
      return [.contains (← result) limits]
  | "if", .schema result =>
      if (find? entries "then").isNone ∧ (find? entries "else").isNone then
        return (result.toOption.map (.conditional · none none)).toList
      let condition ← result
      let whenTrue ← schemaOf entries "then"
      let whenFalse ← schemaOf entries "else"
      return [.conditional condition whenTrue whenFalse]
  | "not", .schema result => return [.negation entry.value (← result)]
  | "propertyNames", .schema result =>
      match entry.value with
      | .bool true => return []
      | .bool false => return [.noPropertyNames]
      | _ => return [.propertyNames (← result)]
  | "items", .schema result => return [.items (ownItems entries) (← result)]
  | "items", .list results => return [.tuple "items" (← results.mapM id)]
  | "prefixItems", .list results => return [.tuple "prefixItems" (← results.mapM id)]
  | "prefixItems", _ => .error (.wrongType entry.value [.array])
  | "allOf", .list results => return [.allOf (← results.mapM id)]
  | "anyOf", .list results => return [.anyOf (← results.mapM id)]
  | "oneOf", .list results => return [.oneOf (← results.mapM id)]
  | "properties", .named found =>
      if restrictsProperties entries then return []
      return [.properties (← compileNamed found)]
  | "patternProperties", .named found =>
      if restrictsProperties entries then return []
      return [.patternProperties (← compilePatterns found)]
  | "dependencies", .named found =>
      found.mapM fun (key, value, result) => dependency key value result
  | "dependentRequired", .named found =>
      found.mapM fun (key, value, _) =>
        (requiredKeys value).map (.requiredWith "dependentRequired" key ·)
  | "dependentRequired", _ => .error (.wrongType entry.value [.object])
  | "dependentSchemas", .named found =>
      found.mapM fun (key, _, result) => result.map (.schemaWith "dependentSchemas" key ·)
  | "dependentSchemas", _ => .error (.wrongType entry.value [.object])
  | _, _ => return []

/-- The rule of a keyword whose value limits a number. In the fourth draft, a neighbour tells
whether the limit itself is excluded. -/
def boundRule? (draft : Draft) (entries : List KeywordEntry) (keyword : String)
    (value : Json) : Option Rule :=
  let isExcluded := fun neighbour =>
    match find? entries neighbour with
    | some ⟨_, .bool true, _⟩ => !draft.since .draft6
    | _ => false
  match keyword, value with
  | "minimum", .number limit =>
      some (.bound (if isExcluded "exclusiveMinimum" then .above else .atLeast) limit)
  | "maximum", .number limit =>
      some (.bound (if isExcluded "exclusiveMaximum" then .below else .atMost) limit)
  | "exclusiveMinimum", .number limit => some (.bound .above limit)
  | "exclusiveMaximum", .number limit => some (.bound .below limit)
  | "multipleOf", .number divisor => some (.multipleOf divisor.toBinary64)
  | _, _ => none

/-- What a keyword limits the size of, and the rule for a limit. -/
def sizeRule? (keyword : String) : Option (Nat → Rule) :=
  match keyword with
  | "minLength" => some (.least .characters)
  | "maxLength" => some (.most .characters)
  | "minItems" => some (.least .items)
  | "maxItems" => some (.most .items)
  | "minProperties" => some (.least .properties)
  | "maxProperties" => some (.most .properties)
  | _ => none

/-- The rule for the content of a text. The media type goes with the encoding beside it. -/
def contentRule? (entries : List KeywordEntry) (keyword : String) (value : Json) :
    Option Rule :=
  let encoding := find? entries "contentEncoding"
  let media := find? entries "contentMediaType"
  match keyword, value with
  | "contentMediaType", .string "application/json" =>
      match encoding with
      | none => some (.media "application/json")
      | some ⟨_, .string "base64", _⟩ => some (.encodedMedia "base64" "application/json")
      | some _ => none
  | "contentEncoding", .string "base64" =>
      if media.isNone then some (.encoding "base64") else none
  | _, _ => none

/-- The rules of a keyword, in order. Keywords without a rule are ignored. -/
def rules (language : SchemaLanguage) (entries : List KeywordEntry) (entry : KeywordEntry) :
    Except Cause (List Rule) :=
  let types := if language.draft.since .draft6 then Rule.types else Rule.writtenTypes
  match entry.keyword, entry.value with
  | "type", .string name => .ok [types (typeList [name])]
  | "type", .array _ => .ok [types (typeList (stringsOf entry.value))]
  | "enum", .array options => .ok [.enumeration options]
  | "const", expected => .ok [.constant expected]
  | "pattern", .string source =>
      match Pattern.compile? source with
      | some pattern => .ok [.pattern source pattern]
      | none => .error (.wrongFormat entry.value "regex")
  | "format", .string name =>
      match Format.test? name with
      | some test => .ok (if language.checksFormat name then [.format name test] else [])
      | none => .ok []
  | "uniqueItems", .bool true => .ok [.unique]
  | "required", .array _ => .ok [.required (stringsOf entry.value)]
  | keyword, value =>
      match sizeRule? keyword with
      | some rule => (sizeLimit language.draft value).map fun limit => [rule limit]
      | none =>
          match boundRule? language.draft entries keyword value <|>
              contentRule? entries keyword value with
          | some rule => .ok [rule]
          | none => schemaRules language entries entry

/-- The rule for what the neighbours of a keyword leave unevaluated. -/
def unevaluatedRule (neighbours : List Rule) (entry : KeywordEntry) : Except Cause Rule :=
  match entry.keyword, entry.part with
  | "unevaluatedItems", .schema result => result.map (.unevaluatedItems neighbours ·)
  | _, .schema result => result.map (.unevaluatedProperties neighbours ·)
  | _, _ => .error (.wrongType entry.value [.boolean, .object])

/-- The schema of the members of a document. The rules are in the order of the keywords. -/
def assemble (language : SchemaLanguage) (entries : List KeywordEntry) : SchemaResult := do
  let known := entries.filter (language.knows ·.keyword)
  let isLate := fun entry : KeywordEntry => Text.startsWith entry.keyword "unevaluated"
  let isBefore := fun entry : KeywordEntry => entry.keyword < "unevaluated"
  let before ← (known.filter isBefore).mapM (rules language entries)
  let after ←
    (known.filter fun entry => !isBefore entry && !isLate entry).mapM (rules language entries)
  let late ← (known.filter isLate).mapM (unevaluatedRule (before ++ after).flatten)
  return .rules (before.flatten ++ late ++ after.flatten)

end KeywordEntry

mutual

/-- The schema that a document describes inside another. -/
def Schema.ofJson (outer : SchemaLanguage) : Json → SchemaResult
  | .bool true => .ok .anything
  | .bool false => .ok .nothing
  | .object members =>
      let language := outer.inside (.object members)
      KeywordEntry.assemble language (keywordEntries language members)
  | other => .error (.wrongType other [.boolean, .object])

def keywordEntries (language : SchemaLanguage) : List (String × Json) → List KeywordEntry
  | [] => []
  | (keyword, value) :: rest =>
      ⟨keyword, value, keywordPart language (keywordShape keyword) value⟩ ::
        keywordEntries language rest

def keywordPart (outer : SchemaLanguage) (shape : KeywordShape) : Json → KeywordPart
  | .array items =>
      match shape with
      | .list => .list (schemaResults outer items)
      | .schemaOrList => .list (schemaResults outer items)
      | _ => .plain
  | .object members =>
      let language := outer.inside (.object members)
      match shape with
      | .named => .named (namedResults outer members)
      | .schema => .schema (KeywordEntry.assemble language (keywordEntries language members))
      | .schemaOrList =>
          .schema (KeywordEntry.assemble language (keywordEntries language members))
      | _ => .plain
  | .bool value =>
      match shape with
      | .schema => .schema (.ok (if value then .anything else .nothing))
      | .schemaOrList => .schema (.ok (if value then .anything else .nothing))
      | _ => .plain
  | _ => .plain

def schemaResults (language : SchemaLanguage) : List Json → List SchemaResult
  | [] => []
  | item :: rest => Schema.ofJson language item :: schemaResults language rest

def namedResults (language : SchemaLanguage) :
    List (String × Json) → List (String × Json × SchemaResult)
  | [] => []
  | (key, value) :: rest =>
      (key, value, Schema.ofJson language value) :: namedResults language rest

end

/-- The schema of a whole document. -/
def Schema.ofRoot (document : Json) : SchemaResult :=
  match document with
  | .object members =>
      let language := SchemaLanguage.ofDocument document
      KeywordEntry.assemble language (keywordEntries language members)
  | other => Schema.ofJson (SchemaLanguage.ofDocument document) other

end ApiContract
