import ApiContract.Format
import ApiContract.Schema.Findings

/-
This file holds the schema that documents must fit to be schemas, and the identifiers inside them.
The schema is built for a depth of nesting; beyond the depth it allows everything.
-/

namespace ApiContract.SchemaDialect

def ofType (type : ValueType) : Schema := .rules [.types [type]]

def text : Schema := ofType .string

def textOfFormat (name : String) : Schema :=
  .rules [.format name ((Format.test? name).getD fun _ => true), .types [.string]]

def count : Schema := .rules [.bound .atLeast (.integer 0), .types [.integer]]

def number : Schema := ofType .number

def flag : Schema := ofType .boolean

def typeName : Schema := .rules [.enumeration (ValueType.all.map (Json.string ·.name))]

def anyArray : Schema := .rules [.types [.array]]

def textArray : Schema := .rules [.items 0 text, .types [.array], .unique]

def typeNames : Schema :=
  .rules
    [.anyOf [typeName, .rules [.items 0 typeName, .least .items 1, .types [.array], .unique]]]

/-- Objects whose members fit a schema. -/
def mapOf (schema : Schema) : Schema := .rules [.openProperties [] [] schema, .types [.object]]

/-- The schemas of the keywords, in the order of their names; `inner` is the schema of schemas. -/
def keywords (inner : Schema) : List (String × Schema) :=
  let list := Schema.rules [.items 0 inner, .least .items 1, .types [.array]]
  let pattern := Rule.format "regex" Pattern.isPattern
  [("$comment", text), ("$id", textOfFormat "uri-reference"),
    ("$ref", textOfFormat "uri-reference"), ("$schema", textOfFormat "uri"),
    ("additionalItems", inner), ("additionalProperties", inner), ("allOf", list),
    ("anyOf", list), ("contains", inner), ("contentEncoding", text),
    ("contentMediaType", text), ("definitions", mapOf inner),
    ("dependencies", mapOf (.rules [.anyOf [inner, textArray]])), ("description", text),
    ("else", inner), ("enum", anyArray), ("examples", anyArray), ("exclusiveMaximum", number),
    ("exclusiveMinimum", number), ("format", text), ("if", inner),
    ("items", .rules [.anyOf [inner, list]]), ("maxItems", count), ("maxLength", count),
    ("maxProperties", count), ("maximum", number), ("minItems", count), ("minLength", count),
    ("minProperties", count), ("minimum", number),
    ("multipleOf", .rules [.bound .above (.integer 0), .types [.number]]), ("not", inner),
    ("oneOf", list), ("pattern", .rules [pattern, .types [.string]]),
    ("patternProperties",
      .rules [.openProperties [] [] inner, .propertyNames (.rules [pattern]), .types [.object]]),
    ("properties", mapOf inner), ("propertyNames", inner), ("readOnly", flag),
    ("required", textArray), ("then", inner), ("title", text), ("type", typeNames),
    ("uniqueItems", flag)]

/-- The schema of schemas, for documents that are nested at most so deep. -/
def schema : Nat → Schema
  | 0 => .anything
  | depth + 1 => .rules [.properties (keywords (schema depth)), .types [.boolean, .object]]

mutual

/-- The greatest number of values that lie inside one another. -/
def height : Json → Nat
  | .array items => 1 + itemsHeight items
  | .object members => 1 + membersHeight members
  | _ => 1

def itemsHeight : List Json → Nat
  | [] => 0
  | item :: rest => max (height item) (itemsHeight rest)

def membersHeight : List (String × Json) → Nat
  | [] => 0
  | (_, value) :: rest => max (height value) (membersHeight rest)

end

/-- The first reason why a document is not a schema. -/
def firstCause? (document : Json) : Option Cause :=
  ((schema (height document)).findings document .root .root).head?.map (·.cause)

end ApiContract.SchemaDialect
