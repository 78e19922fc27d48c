import ApiContract.Json.Reader
import ApiContract.Schema.Basic
import ApiContract.Text.Base64
import ApiContract.Text.Utf8

/-
This file applies schemas to values and collects every broken rule, in the order of the rules.
-/

namespace ApiContract

/-- Whether a number keeps a bound. -/
def Bound.allows (kind : Bound) (limit value : Number) : Bool :=
  match kind with
  | .atLeast => !value.lt limit
  | .above => limit.lt value
  | .atMost => !limit.lt value
  | .below => value.lt limit

/-- Numbers match a constant number if their nearest binary64 values differ by less than `2 ^ -52`.
-/
def nearlyEqual (first second : Binary64) : Bool :=
  let (above, below) := first.fraction
  let (above', below') := second.fraction
  (above * below' - above' * below).natAbs * Nat.pow 2 52 < below * below'

def matchesConstant (expected value : Json) : Bool :=
  match expected, value with
  | .number expected, .number value => nearlyEqual expected.toBinary64 value.toBinary64
  | _, _ => expected.sameValue value

/-- The least power of ten by which a value becomes nearly an integer, and that integer. -/
def decimalParts : Nat → Binary64 → Nat → Nat × Nat
  | 0, value, power => ((value.floor).natAbs, Nat.pow 10 power)
  | fuel + 1, value, power =>
      let scaled := (Binary64.ofNat (Nat.pow 10 power) >>= value.mul).getD value
      let (above, below) := scaled.ratio
      if above % below * Nat.pow 2 52 < below then (above / below, Nat.pow 10 power)
      else decimalParts fuel value (power + 1)

/-- Whether a quotient that exceeds every binary64 value is an integer, on decimal grounds. -/
def dividesExactly (value divisor : Binary64) : Bool :=
  let (above, below) := decimalParts 320 { value with negative := false } 0
  let (above', below') := decimalParts 320 { divisor with negative := false } 0
  above' == 0 || above * below' % (below * above') == 0

/-- Whether a value is a multiple of a divisor. An integer divisor takes exact remainders; any other
takes the fraction of the rounded quotient, and a negative one counts as none. -/
def isMultiple (divisor value : Binary64) : Bool :=
  if divisor.isInteger then
    value.isInteger && (value.remainder divisor).any Binary64.isZero
  else
    match value.div divisor with
    | none => dividesExactly value divisor
    | some quotient =>
        let (above, below) := quotient.ratio
        quotient.negative || above % below * Nat.pow 2 52 < below

def isJsonText (text : String) : Bool :=
  match Json.parse text with
  | .ok _ => true
  | .error _ => false

/-- The cause why an encoded text does not hold a document, if so. -/
def encodedMediaCause (value : Json) (text encoding type : String) : Option Cause :=
  match Text.decodeBase64 text.toList with
  | none => some (.wrongEncoding value encoding)
  | some bytes =>
      match Text.decodeUtf8 bytes with
      | .error fault => some (.notUtf8 fault.message)
      | .ok decoded => if isJsonText decoded then none else some (.wrongMedia value type)

/-- The causes of a rule without schemas. -/
def Rule.simpleCauses (rule : Rule) (value : Json) : List Cause :=
  match rule, value with
  | .types allowed, _ =>
      if allowed.any (·.includes value) then [] else [.wrongType value allowed]
  | .writtenTypes allowed, _ =>
      if allowed.any (·.includesWritten value) then [] else [.wrongType value allowed]
  | .enumeration options, _ =>
      if options.any value.sameValue then [] else [.notOneOf value options]
  | .constant expected, _ =>
      if matchesConstant expected value then [] else [.notConstant expected]
  | .bound kind limit, .number number =>
      if kind.allows limit number then [] else [.outOfBound value kind limit]
  | .multipleOf divisor, .number number =>
      if isMultiple divisor number.toBinary64 then [] else [.notMultiple value divisor]
  | .least measure limit, _ =>
      match measure.of? value with
      | some size => if size < limit then [.tooSmall value measure limit] else []
      | none => []
  | .most measure limit, _ =>
      match measure.of? value with
      | some size => if limit < size then [.tooLarge value measure limit] else []
      | none => []
  | .pattern source compiled, .string text =>
      match compiled.test text with
      | .ok found => if found then [] else [.noMatch value source]
      | .error fault => [.searchFault fault]
  | .format name test, .string text => if test text then [] else [.wrongFormat value name]
  | .media type, .string text => if isJsonText text then [] else [.wrongMedia value type]
  | .encoding name, .string text =>
      if (Text.decodeBase64 text.toList).isSome then [] else [.wrongEncoding value name]
  | .encodedMedia name type, .string text =>
      (encodedMediaCause value text name type).toList
  | .unique, .array elements => if Json.allDistinct elements then [] else [.notUnique value]
  | .noMoreItems start, .array elements =>
      if start < elements.length then [.additionalItems (elements.drop start)] else []
  | .required keys, .object members =>
      (keys.filter fun key => (members.lookup key).isNone).map .missingProperty
  | .requiredWith _ key keys, .object members =>
      if (members.lookup key).isNone then []
      else (keys.filter fun key => (members.lookup key).isNone).map .missingProperty
  | .noProperties, .object ((_, first) :: _) => [.falseSchema first]
  | .noPropertyNames, .object (_ :: _) => [.falseSchema value]
  | _, _ => []

/-- The keyword of a rule, which is its place in a schema. -/
def Rule.keyword : Rule → String
  | .types _ => "type"
  | .writtenTypes _ => "type"
  | .enumeration _ => "enum"
  | .constant _ => "const"
  | .bound .atLeast _ => "minimum"
  | .bound .above _ => "exclusiveMinimum"
  | .bound .atMost _ => "maximum"
  | .bound .below _ => "exclusiveMaximum"
  | .multipleOf _ => "multipleOf"
  | .least .characters _ => "minLength"
  | .least .items _ => "minItems"
  | .least .properties _ => "minProperties"
  | .most .characters _ => "maxLength"
  | .most .items _ => "maxItems"
  | .most .properties _ => "maxProperties"
  | .pattern _ _ => "pattern"
  | .format _ _ => "format"
  | .media _ => "contentMediaType"
  | .encoding _ => "contentEncoding"
  | .encodedMedia _ _ => "contentMediaType"
  | .unique => "uniqueItems"
  | .items _ _ => "items"
  | .tuple keyword _ => keyword
  | .moreItems _ _ => "additionalItems"
  | .noMoreItems _ => "additionalItems"
  | .contains _ _ => "contains"
  | .required _ => "required"
  | .properties _ => "properties"
  | .patternProperties _ => "patternProperties"
  | .closedProperties _ _ => "additionalProperties"
  | .openProperties _ _ _ => "additionalProperties"
  | .noProperties => "additionalProperties"
  | .propertyNames _ => "propertyNames"
  | .noPropertyNames => "propertyNames"
  | .requiredWith keyword _ _ => keyword
  | .schemaWith keyword _ _ => keyword
  | .allOf _ => "allOf"
  | .anyOf _ => "anyOf"
  | .oneOf _ => "oneOf"
  | .negation _ _ => "not"
  | .conditional _ _ _ => "if"
  | .unevaluatedItems _ _ => "unevaluatedItems"
  | .unevaluatedProperties _ _ => "unevaluatedProperties"

/-- The keyword that a cause is reported at. An encoding beside a media type has its own. -/
def Rule.keywordOf (rule : Rule) (cause : Cause) : String :=
  match cause with
  | .wrongEncoding _ _ => "contentEncoding"
  | _ => rule.keyword

/-- The place of a finding. The text of an encoding has no place. -/
def Cause.at (cause : Cause) (instancePath schemaPath : Pointer) : Finding :=
  match cause with
  | .notUtf8 _ => ⟨cause, .root, .root⟩
  | _ => ⟨cause, instancePath, schemaPath⟩

/-- Values with the positions from a first one on. -/
def numberedFrom (start : Nat) : List Json → List (Nat × Json)
  | [] => []
  | item :: rest => (start, item) :: numberedFrom (start + 1) rest

/-- The steps to what a value holds, with the values: the keys of members, or the positions of
items. -/
def Json.steps : Json → List (String × Json)
  | .object members => members
  | .array items => (numberedFrom 0 items).map fun (index, item) => (toString index, item)
  | _ => []

/-- The keywords that a wrong number of contained items is reported at. -/
def ContainedLimits.brokenAt? (limits : ContainedLimits) (count : Nat) : Option (List String) :=
  match limits.least, limits.most with
  | none, none => if count = 0 then some ["contains"] else none
  | some least, none => if count < least then some ["minContains"] else none
  | none, some most => if count = 0 ∨ most < count then some ["maxContains"] else none
  | some least, some most =>
      if most < count then some ["contains", "maxContains"]
      else if count < least then some ["contains", "minContains"]
      else none

mutual

/-- The broken rules of a schema at a value. -/
def Schema.findings (value : Json) (instancePath : Pointer) :
    Schema → Pointer → List Finding
  | .anything, _ => []
  | .nothing, schemaPath => [⟨.falseSchema value, instancePath, schemaPath⟩]
  | .rules list, schemaPath => ruleListFindings value instancePath list schemaPath

def ruleListFindings (value : Json) (instancePath : Pointer) :
    List Rule → Pointer → List Finding
  | [], _ => []
  | rule :: rest, schemaPath =>
      Rule.findings value instancePath rule schemaPath ++
        ruleListFindings value instancePath rest schemaPath

/-- The findings of one rule; `schemaPath` is the place of its schema. -/
def Rule.findings (value : Json) (instancePath : Pointer) :
    Rule → Pointer → List Finding
  | .items start schema, schemaPath =>
      (numberedFrom start (value.items.drop start)).flatMap fun (index, item) =>
        Schema.findings item (instancePath.pushIndex index) schema (schemaPath.push "items")
  | .tuple keyword schemas, schemaPath =>
      tupleFindings (numberedFrom 0 value.items) instancePath schemas (schemaPath.push keyword)
  | .moreItems start schema, schemaPath =>
      (numberedFrom start (value.items.drop start)).flatMap fun (index, item) =>
        Schema.findings item (instancePath.pushIndex index) schema
          (schemaPath.push "additionalItems")
  | .contains schema limits, schemaPath =>
      match value with
      | .array elements =>
          let count := elements.countP fun item =>
            (Schema.findings item .root schema .root).isEmpty
          match limits.brokenAt? count with
          | some keywords =>
              [⟨.noneContained value, instancePath, keywords.foldl Pointer.push schemaPath⟩]
          | none => []
      | _ => []
  | .properties schemas, schemaPath =>
      propertyFindings value instancePath schemas (schemaPath.push "properties")
  | .patternProperties schemas, schemaPath =>
      patternListFindings value.members instancePath schemas
        (schemaPath.push "patternProperties")
  | .closedProperties schemas patterns, schemaPath =>
      let found := value.members.flatMap fun (key, member) =>
        ((namedFindings key member instancePath schemas
            (schemaPath.push "properties")).getD []) ++
          patternFindings key member instancePath patterns (schemaPath.push "patternProperties")
      let extra := (value.members.map (·.1)).filter fun key =>
        (schemas.lookup key).isNone && !patterns.any (·.2.1.isMatch key)
      if extra.isEmpty then found
      else
        found ++
          [⟨.additionalProperties extra, instancePath, schemaPath.push "additionalProperties"⟩]
  | .openProperties schemas patterns other, schemaPath =>
      value.members.flatMap fun (key, member) =>
        let named := namedFindings key member instancePath schemas (schemaPath.push "properties")
        let matching := patternFindings key member instancePath patterns
          (schemaPath.push "patternProperties")
        if named.isSome || patterns.any (·.2.1.isMatch key) then named.getD [] ++ matching
        else
          Schema.findings member (instancePath.push key) other
            (schemaPath.push "additionalProperties")
  | .propertyNames schema, schemaPath =>
      value.members.flatMap fun (key, _) =>
        Schema.findings (.string key) instancePath schema (schemaPath.push "propertyNames")
  | .schemaWith keyword key schema, schemaPath =>
      if (value.member? key).isSome then
        Schema.findings value instancePath schema ((schemaPath.push keyword).push key)
      else []
  | .allOf schemas, schemaPath =>
      schemaListFindings value instancePath schemas (schemaPath.push "allOf") 0
  | .anyOf schemas, schemaPath =>
      if validCount value schemas = 0 then
        [⟨.noAlternative value "anyOf", instancePath, schemaPath.push "anyOf"⟩]
      else []
  | .oneOf schemas, schemaPath =>
      let count := validCount value schemas
      if count = 0 then
        [⟨.noAlternative value "oneOf", instancePath, schemaPath.push "oneOf"⟩]
      else if count = 1 then []
      else [⟨.severalAlternatives value, instancePath, schemaPath.push "oneOf"⟩]
  | .negation source schema, schemaPath =>
      if (Schema.findings value .root schema .root).isEmpty then
        [⟨.negated value source, instancePath, schemaPath.push "not"⟩]
      else []
  | .conditional condition whenTrue whenFalse, schemaPath =>
      if (Schema.findings value .root condition .root).isEmpty then
        optionalFindings value instancePath whenTrue (schemaPath.push "then")
      else optionalFindings value instancePath whenFalse (schemaPath.push "else")
  | .unevaluatedItems neighbours schema, schemaPath =>
      let evaluated := ruleListEvaluated value neighbours
      let left := (numberedFrom 0 value.items).filter fun (index, item) =>
        !evaluated.contains (toString index) && !(Schema.findings item .root schema .root).isEmpty
      if left.isEmpty then []
      else
        [⟨.unevaluated "items" (left.map (·.2.text)), instancePath,
          schemaPath.push "unevaluatedItems"⟩]
  | .unevaluatedProperties neighbours schema, schemaPath =>
      let evaluated := ruleListEvaluated value neighbours
      let left := value.members.filter fun (key, member) =>
        !evaluated.contains key && !(Schema.findings member .root schema .root).isEmpty
      if left.isEmpty then []
      else
        [⟨.unevaluated "properties" (left.map (·.1)), instancePath,
          schemaPath.push "unevaluatedProperties"⟩]
  | rule, schemaPath =>
      (rule.simpleCauses value).map fun cause =>
        cause.at instancePath (schemaPath.push (rule.keywordOf cause))

def optionalFindings (value : Json) (instancePath : Pointer) :
    Option Schema → Pointer → List Finding
  | none, _ => []
  | some schema, schemaPath => Schema.findings value instancePath schema schemaPath

/-- Applies schemas to items at the same positions. -/
def tupleFindings (items : List (Nat × Json)) (instancePath : Pointer) :
    List Schema → Pointer → List Finding
  | [], _ => []
  | schema :: rest, schemaPath =>
      match items with
      | [] => []
      | (index, item) :: others =>
          Schema.findings item (instancePath.pushIndex index) schema
              (schemaPath.pushIndex index) ++
            tupleFindings others instancePath rest schemaPath

/-- Applies all schemas to one value. -/
def schemaListFindings (value : Json) (instancePath : Pointer) :
    List Schema → Pointer → Nat → List Finding
  | [], _, _ => []
  | schema :: rest, schemaPath, index =>
      Schema.findings value instancePath schema (schemaPath.pushIndex index) ++
        schemaListFindings value instancePath rest schemaPath (index + 1)

/-- The number of schemas that allow a value. -/
def validCount (value : Json) : List Schema → Nat
  | [] => 0
  | schema :: rest =>
      (if (Schema.findings value .root schema .root).isEmpty then 1 else 0) +
        validCount value rest

/-- Applies the schemas of named members to an object. -/
def propertyFindings (value : Json) (instancePath : Pointer) :
    List (String × Schema) → Pointer → List Finding
  | [], _ => []
  | (key, schema) :: rest, schemaPath =>
      (match value.member? key with
        | some member =>
            Schema.findings member (instancePath.push key) schema (schemaPath.push key)
        | none => []) ++
        propertyFindings value instancePath rest schemaPath

/-- Applies the schema of one named member, if there is one. -/
def namedFindings (key : String) (member : Json) (instancePath : Pointer) :
    List (String × Schema) → Pointer → Option (List Finding)
  | [], _ => none
  | (name, schema) :: rest, schemaPath =>
      if name = key then
        some (Schema.findings member (instancePath.push key) schema (schemaPath.push key))
      else namedFindings key member instancePath rest schemaPath

/-- Applies the schemas of all patterns that match a key. -/
def patternFindings (key : String) (member : Json) (instancePath : Pointer) :
    List (String × Pattern × Schema) → Pointer → List Finding
  | [], _ => []
  | (source, pattern, schema) :: rest, schemaPath =>
      (if pattern.isMatch key then
        Schema.findings member (instancePath.push key) schema (schemaPath.push source)
      else []) ++
        patternFindings key member instancePath rest schemaPath

/-- Applies the schema of each pattern to all members with a key that matches it. -/
def patternListFindings (members : List (String × Json)) (instancePath : Pointer) :
    List (String × Pattern × Schema) → Pointer → List Finding
  | [], _ => []
  | (source, pattern, schema) :: rest, schemaPath =>
      (members.flatMap fun (key, member) =>
        if pattern.isMatch key then
          Schema.findings member (instancePath.push key) schema (schemaPath.push source)
        else []) ++
        patternListFindings members instancePath rest schemaPath

/-- The steps to the members or items that a schema evaluates. -/
def Schema.evaluated (value : Json) : Schema → List String
  | .anything => []
  | .nothing => []
  | .rules list => ruleListEvaluated value list

def ruleListEvaluated (value : Json) : List Rule → List String
  | [] => []
  | rule :: rest => Rule.evaluated value rule ++ ruleListEvaluated value rest

/-- The steps to the members or items that a rule evaluates. Rules inside others count where their
schema allows the value. -/
def Rule.evaluated (value : Json) : Rule → List String
  | .items _ _ => value.steps.map (·.1)
  | .tuple _ schemas => (value.steps.take schemas.length).map (·.1)
  | .moreItems _ _ => value.steps.map (·.1)
  | .noMoreItems _ => value.steps.map (·.1)
  | .contains schema limits =>
      if limits.evaluates then
        (value.steps.filter fun (_, item) =>
          (Schema.findings item .root schema .root).isEmpty).map (·.1)
      else []
  | .properties schemas => namedEvaluated value schemas
  | .patternProperties schemas => patternsEvaluated value.members schemas
  | .closedProperties schemas patterns =>
      namedEvaluated value schemas ++ patternsEvaluated value.members patterns
  | .openProperties schemas patterns other =>
      namedEvaluated value schemas ++ patternsEvaluated value.members patterns ++
        (value.members.filter fun (_, member) =>
          (Schema.findings member .root other .root).isEmpty).map (·.1)
  | .schemaWith _ key schema =>
      if (value.member? key).isSome then Schema.evaluated value schema else []
  | .allOf schemas =>
      if validCount value schemas = schemas.length then alternativesEvaluated value schemas else []
  | .anyOf schemas => alternativesEvaluated value schemas
  | .oneOf schemas =>
      if validCount value schemas = 1 then alternativesEvaluated value schemas else []
  | .conditional condition whenTrue whenFalse =>
      if (Schema.findings value .root condition .root).isEmpty then
        Schema.evaluated value condition ++ optionalEvaluated value whenTrue
      else optionalEvaluated value whenFalse
  | .unevaluatedItems neighbours schema =>
      ruleListEvaluated value neighbours ++
        (value.steps.filter fun (_, item) =>
          (Schema.findings item .root schema .root).isEmpty).map (·.1)
  | .unevaluatedProperties neighbours schema =>
      ruleListEvaluated value neighbours ++
        (value.members.filter fun (_, member) =>
          (Schema.findings member .root schema .root).isEmpty).map (·.1)
  | _ => []

def optionalEvaluated (value : Json) : Option Schema → List String
  | none => []
  | some schema => Schema.evaluated value schema

/-- What the schemas evaluate that allow a value. -/
def alternativesEvaluated (value : Json) : List Schema → List String
  | [] => []
  | schema :: rest =>
      (if (Schema.findings value .root schema .root).isEmpty then Schema.evaluated value schema
      else []) ++
        alternativesEvaluated value rest

def namedEvaluated (value : Json) : List (String × Schema) → List String
  | [] => []
  | (key, schema) :: rest =>
      (match value.member? key with
        | some member =>
            if (Schema.findings member .root schema .root).isEmpty then [key] else []
        | none => []) ++
        namedEvaluated value rest

def patternsEvaluated (members : List (String × Json)) :
    List (String × Pattern × Schema) → List String
  | [] => []
  | (_, pattern, schema) :: rest =>
      ((members.filter fun (key, member) =>
        pattern.isMatch key && (Schema.findings member .root schema .root).isEmpty).map (·.1)) ++
        patternsEvaluated members rest

end

/-- Whether a schema allows a value. -/
def Schema.allows (schema : Schema) (value : Json) : Bool :=
  (schema.findings value .root .root).isEmpty

end ApiContract
