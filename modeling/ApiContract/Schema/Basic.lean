import ApiContract.Json.Pointer
import ApiContract.Json.Text
import ApiContract.Pattern

/-
This file holds schemas and their rules, and the findings that a check reports. A schema is a list
of rules in the order in which they are checked.
-/

namespace ApiContract

/-- The types of values, in the order of their names. -/
inductive ValueType where
  | array
  | boolean
  | integer
  | null
  | number
  | object
  | string
  deriving DecidableEq, Repr

namespace ValueType

def all : List ValueType := [array, boolean, integer, null, number, object, string]

def name : ValueType → String
  | array => "array"
  | boolean => "boolean"
  | integer => "integer"
  | null => "null"
  | number => "number"
  | object => "object"
  | string => "string"

/-- Whether a value is an integer that is written as one. -/
def isWrittenInteger : Json → Bool
  | .number (.integer _) => true
  | _ => false

/-- Whether a value has a type. A number without a fraction is an integer, however it is written. -/
def includes : ValueType → Json → Bool
  | array, .array _ => true
  | boolean, .bool _ => true
  | integer, .number value => value.isInteger
  | null, .null => true
  | number, .number _ => true
  | object, .object _ => true
  | string, .string _ => true
  | _, _ => false

/-- Whether a value has a type, where integers are those that are written as such. -/
def includesWritten (type : ValueType) (value : Json) : Bool :=
  type.includes value && (type != integer || isWrittenInteger value)

end ValueType

/-- How the limit of a number is compared. -/
inductive Bound where
  | atLeast
  | above
  | atMost
  | below
  deriving DecidableEq, Repr

/-- What the size of a value is counted in. -/
inductive Measure where
  | characters
  | items
  | properties
  deriving DecidableEq, Repr

namespace Measure

/-- The size of a value; values of other types have none. -/
def of? : Measure → Json → Option Nat
  | characters, .string value => some value.length
  | items, .array values => some values.length
  | properties, .object members => some members.length
  | _, _ => none

/-- A count with the word that fits it. -/
def words (measure : Measure) (count : Nat) : String :=
  let word :=
    match measure with
    | characters => if count = 1 then "character" else "characters"
    | items => if count = 1 then "item" else "items"
    | properties => if count = 1 then "property" else "properties"
  toString count ++ " " ++ word

end Measure

/-- How many items may be contained, and whether those that are count as evaluated. -/
structure ContainedLimits where
  least : Option Nat
  most : Option Nat
  evaluates : Bool
  deriving DecidableEq, Repr

mutual

/-- What a value may be. -/
inductive Schema where
  | anything
  | nothing
  | rules (list : List Rule)

/-- One rule of a schema. -/
inductive Rule where
  | types (allowed : List ValueType)
  | writtenTypes (allowed : List ValueType)
  | enumeration (options : List Json)
  | constant (expected : Json)
  | bound (kind : Bound) (limit : Number)
  | multipleOf (divisor : Binary64)
  | least (measure : Measure) (limit : Nat)
  | most (measure : Measure) (limit : Nat)
  | pattern (source : String) (pattern : Pattern)
  | format (name : String) (test : String → Bool)
  | media (type : String)
  | encoding (name : String)
  | encodedMedia (encoding type : String)
  | unique
  | items (start : Nat) (schema : Schema)
  | tuple (keyword : String) (schemas : List Schema)
  | moreItems (start : Nat) (schema : Schema)
  | noMoreItems (start : Nat)
  | contains (schema : Schema) (limits : ContainedLimits)
  | required (keys : List String)
  | properties (schemas : List (String × Schema))
  | patternProperties (schemas : List (String × Pattern × Schema))
  | closedProperties (schemas : List (String × Schema))
      (patterns : List (String × Pattern × Schema))
  | openProperties (schemas : List (String × Schema))
      (patterns : List (String × Pattern × Schema)) (other : Schema)
  | noProperties
  | propertyNames (schema : Schema)
  | noPropertyNames
  | requiredWith (keyword key : String) (keys : List String)
  | schemaWith (keyword key : String) (schema : Schema)
  | allOf (schemas : List Schema)
  | anyOf (schemas : List Schema)
  | oneOf (schemas : List Schema)
  | negation (source : Json) (schema : Schema)
  | conditional (condition : Schema) (whenTrue whenFalse : Option Schema)
  | unevaluatedItems (neighbours : List Rule) (schema : Schema)
  | unevaluatedProperties (neighbours : List Rule) (schema : Schema)

end

/-- Why a value breaks a rule. -/
inductive Cause where
  | falseSchema (value : Json)
  | wrongType (value : Json) (allowed : List ValueType)
  | notOneOf (value : Json) (options : List Json)
  | notConstant (expected : Json)
  | outOfBound (value : Json) (kind : Bound) (limit : Number)
  | notMultiple (value : Json) (divisor : Binary64)
  | tooSmall (value : Json) (measure : Measure) (limit : Nat)
  | tooLarge (value : Json) (measure : Measure) (limit : Nat)
  | noMatch (value : Json) (source : String)
  | searchFault (fault : Pattern.Extended.SearchFault)
  | wrongFormat (value : Json) (name : String)
  | wrongMedia (value : Json) (type : String)
  | wrongEncoding (value : Json) (name : String)
  | notUtf8 (reason : String)
  | notUnique (value : Json)
  | additionalItems (items : List Json)
  | noneContained (value : Json)
  | missingProperty (key : String)
  | additionalProperties (keys : List String)
  | unevaluated (kind : String) (texts : List String)
  | noAlternative (value : Json) (keyword : String)
  | severalAlternatives (value : Json)
  | negated (value source : Json)
  deriving Repr

/-- A broken rule, with the place of the value and the place of the rule. -/
structure Finding where
  cause : Cause
  instancePath : Pointer
  schemaPath : Pointer

namespace Cause

def wereUnexpected (count : Nat) : String :=
  if count = 1 then " was unexpected)" else " were unexpected)"

/-- Texts between apostrophes, with the words that end a message about them. -/
def quotedUnexpected (texts : List String) : String :=
  String.intercalate ", " (texts.map fun text => "'" ++ text ++ "'") ++
    wereUnexpected texts.length

def boundWords : Bound → String
  | .atLeast => " is less than the minimum of "
  | .above => " is less than or equal to the minimum of "
  | .atMost => " is greater than the maximum of "
  | .below => " is greater than or equal to the maximum of "

def sizeWords (measure : Measure) (long : Bool) : String :=
  match measure with
  | .characters => if long then " is longer than " else " is shorter than "
  | _ => if long then " has more than " else " has less than "

def quotedTypes (types : List ValueType) : String :=
  String.intercalate ", " (types.map fun type => "\"" ++ type.name ++ "\"")

/-- The message of a cause. -/
def message : Cause → String
  | falseSchema value => "False schema does not allow " ++ value.text
  | wrongType value [single] => value.text ++ " is not of type " ++ quotedTypes [single]
  | wrongType value allowed => value.text ++ " is not of types " ++ quotedTypes allowed
  | notOneOf value options => value.text ++ " is not one of " ++ (Json.array options).text
  | notConstant expected => expected.text ++ " was expected"
  | outOfBound value kind limit => value.text ++ boundWords kind ++ limit.text
  | notMultiple value divisor =>
      value.text ++ " is not a multiple of " ++ divisor.text .plain
  | tooSmall value measure limit => value.text ++ sizeWords measure false ++ measure.words limit
  | tooLarge value measure limit => value.text ++ sizeWords measure true ++ measure.words limit
  | noMatch value source => value.text ++ " does not match \"" ++ source ++ "\""
  | searchFault fault => "Error executing regex: " ++ fault.message
  | wrongFormat value name => value.text ++ " is not a \"" ++ name ++ "\""
  | wrongMedia value type =>
      value.text ++ " is not compliant with \"" ++ type ++ "\" media type"
  | wrongEncoding value name =>
      value.text ++ " is not compliant with \"" ++ name ++ "\" content encoding"
  | notUtf8 reason => reason
  | notUnique value => value.text ++ " has non-unique elements"
  | additionalItems items =>
      "Additional items are not allowed (" ++
        String.intercalate ", " (items.map Json.text) ++ wereUnexpected items.length
  | noneContained value => "None of " ++ value.text ++ " are valid under the given schema"
  | missingProperty key => Json.quoted key ++ " is a required property"
  | additionalProperties keys =>
      "Additional properties are not allowed (" ++ quotedUnexpected keys
  | unevaluated kind texts =>
      "Unevaluated " ++ kind ++ " are not allowed (" ++ quotedUnexpected texts
  | noAlternative value keyword =>
      value.text ++ " is not valid under any of the schemas listed in the '" ++ keyword ++
        "' keyword"
  | severalAlternatives value =>
      value.text ++ " is valid under more than one of the schemas listed in the 'oneOf' keyword"
  | negated value source => source.text ++ " is not allowed for " ++ value.text

end Cause

end ApiContract
