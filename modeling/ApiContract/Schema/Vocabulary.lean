import ApiContract.Schema.Draft

/-
This file tells which keywords have a meaning in a schema. It depends on the draft, and since 2019
also on the vocabularies that the whole document switches on.
-/

namespace ApiContract

/-- The groups of keywords that a document may switch on. -/
inductive Vocabulary where
  | applicator
  | unevaluated
  | validation
  deriving DecidableEq, Repr

/-- The vocabularies that come with the name of a draft. -/
def Draft.vocabularies : Draft → List Vocabulary
  | draft2019 => [.applicator, .validation]
  | draft2020 => [.applicator, .unevaluated, .validation]
  | _ => []

/-- The draft of a schema, and the vocabularies of the document that it stands in. -/
structure SchemaLanguage where
  draft : Draft
  vocabularies : List Vocabulary

namespace SchemaLanguage

/-- The language of a whole document. Its own draft is the seventh one, but the name that it gives
switches vocabularies on. -/
def ofDocument (document : Json) : SchemaLanguage :=
  match Draft.draft7.inside document with
  | .ok named => ⟨.draft7, named.vocabularies⟩
  | .error _ => ⟨.draft7, []⟩

/-- The language of an inner schema. -/
def inside (language : SchemaLanguage) (schema : Json) : SchemaLanguage :=
  { language with draft := language.draft.insideOrNewest schema }

/-- Whether a vocabulary has a meaning; the older drafts have no vocabularies. -/
def uses (language : SchemaLanguage) (vocabulary : Vocabulary) : Bool :=
  !language.draft.since .draft2019 || language.vocabularies.contains vocabulary

/-- The first draft of a keyword, and its vocabulary if it has one. -/
def keyword? (draft : Draft) (keyword : String) : Option (Draft × Option Vocabulary) :=
  match keyword with
  | "additionalItems" | "additionalProperties" | "allOf" | "anyOf" | "items" | "not" | "oneOf"
  | "patternProperties" | "properties" => some (.draft4, some .applicator)
  | "contains" | "propertyNames" => some (.draft6, some .applicator)
  | "if" => some (.draft7, some .applicator)
  | "dependentSchemas" => some (.draft2019, some .applicator)
  | "prefixItems" => some (.draft2020, some .applicator)
  | "unevaluatedItems" | "unevaluatedProperties" =>
      some (.draft2019, some (if draft = .draft2019 then .applicator else .unevaluated))
  | "enum" | "maximum" | "maxItems" | "maxLength" | "maxProperties" | "minimum" | "minItems"
  | "minLength" | "minProperties" | "multipleOf" | "pattern" | "required" | "type"
  | "uniqueItems" => some (.draft4, some .validation)
  | "const" | "exclusiveMaximum" | "exclusiveMinimum" => some (.draft6, some .validation)
  | "dependentRequired" => some (.draft2019, some .validation)
  | "dependencies" | "format" => some (.draft4, none)
  | "contentEncoding" | "contentMediaType" =>
      if draft.since .draft2019 then none else some (.draft6, none)
  | _ => none

/-- Whether a keyword has a meaning. -/
def knows (language : SchemaLanguage) (keyword : String) : Bool :=
  match keyword? language.draft keyword with
  | none => false
  | some (first, vocabulary) =>
      language.draft.since first && vocabulary.all language.uses

/-- Whether the texts of a format are checked. -/
def checksFormat (language : SchemaLanguage) (name : String) : Bool :=
  match name with
  | "json-pointer" | "uri-reference" | "uri-template" => language.draft.since .draft6
  | "idn-hostname" | "iri" | "iri-reference" | "relative-json-pointer" =>
      language.draft.since .draft7
  | "duration" | "uuid" => language.draft.since .draft2019
  | _ => true

end SchemaLanguage

end ApiContract
