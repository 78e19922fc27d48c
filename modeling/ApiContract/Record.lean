import ApiContract.Json.Basic
import ApiContract.Text.Visible

/-
This file reads typed values from documents. A record is an object with a member for each field, or
an array with an item for each field.
-/

namespace ApiContract

/-- Why a document does not hold a typed value. -/
inductive RecordFault where
  | wrongType (found : Json) (expected : String)
  | wrongValue (found : Json) (expected : String)
  | unknownVariant (name : String) (known : List String)
  | missingField (name : String)
  | repeatedField (name : String)
  | tooFewItems (count : Nat) (record : String) (fields : Nat)
  | tooManyItems (count : Nat)

namespace RecordFault

/-- What was found instead of an expected value. -/
def describe : Json → String
  | .null => "null"
  | .bool value => if value then "boolean `true`" else "boolean `false`"
  | .number (.integer value) => "integer `" ++ toString value ++ "`"
  | .number (.float value) => "floating point `" ++ value.text .document ++ "`"
  | .string value => "string " ++ Text.visible value
  | .array _ => "sequence"
  | .object _ => "map"

def message : RecordFault → String
  | wrongType found expected => "invalid type: " ++ describe found ++ ", expected " ++ expected
  | wrongValue found expected => "invalid value: " ++ describe found ++ ", expected " ++ expected
  | unknownVariant name known =>
      "unknown variant `" ++ name ++ "`, expected one of " ++
        String.intercalate ", " (known.map fun variant => "`" ++ variant ++ "`")
  | missingField name => "missing field `" ++ name ++ "`"
  | repeatedField name => "duplicate field `" ++ name ++ "`"
  | tooFewItems count record fields =>
      "invalid length " ++ toString count ++ ", expected struct " ++ record ++ " with " ++
        toString fields ++ " elements"
  | tooManyItems count =>
      "invalid length " ++ toString count ++ ", expected fewer elements in array"

end RecordFault

namespace Record

def text (json : Json) : Except RecordFault String :=
  match json with
  | .string value => .ok value
  | other => .error (.wrongType other "a string")

def path (json : Json) : Except RecordFault String :=
  match json with
  | .string value => .ok value
  | other => .error (.wrongType other "path string")

/-- A list of values of one kind. -/
def list {α : Type} (read : Json → Except RecordFault α) (json : Json) :
    Except RecordFault (List α) :=
  match json with
  | .array items => items.mapM read
  | other => .error (.wrongType other "a sequence")

/-- One of some names; an object with a single member names its variant by its key. -/
def variant {α : Type} (known : List (String × α)) (json : Json) : Except RecordFault α :=
  let find := fun name =>
    match known.lookup name with
    | some value => Except.ok value
    | none => .error (RecordFault.unknownVariant name (known.map (·.1)))
  match json with
  | .string name => find name
  | .object [(name, content)] => do
      let value ← find name
      match content with
      | .null => return value
      | other => .error (.wrongType other "unit")
  | .object members => .error (.wrongValue (.object members) "map with a single key")
  | other => .error (.wrongType other "string or map")

/-- Reads the values of an object in the order of its keys, of all those that are fields. -/
def readMembers {α : Type} (fields : List (String × (Json → α → Except RecordFault α)))
    (start : α) : List (String × Json) → Except RecordFault α
  | [] => .ok start
  | (key, value) :: rest =>
      match fields.lookup key with
      | none => readMembers fields start rest
      | some read => do readMembers fields (← read value start) rest

/-- Reads the items of an array in the order of the fields; what is left over are the fields that
have no item. -/
def readItems {α : Type} : List (String × (Json → α → Except RecordFault α)) → α → List Json →
    Except RecordFault (α × Nat × Nat)
  | [], start, items => .ok (start, 0, items.length)
  | fields, start, [] => .ok (start, fields.length, 0)
  | (_, read) :: fields, start, item :: items => do readItems fields (← read item start) items

/-- Reads a record over a start value that holds what is known of the fields. -/
def record {α β : Type} (name : String) (fields : List (String × (Json → α → Except RecordFault α)))
    (start : α) (allRequired : Bool) (finish : α → Except RecordFault β) (json : Json) :
    Except RecordFault β :=
  match json with
  | .object members => do finish (← readMembers fields start members)
  | .array items => do
      let (value, missing, extra) ← readItems fields start items
      if allRequired ∧ missing ≠ 0 then
        .error (.tooFewItems (fields.length - missing) name fields.length)
      else
        let result ← finish value
        if extra ≠ 0 then .error (.tooManyItems items.length) else return result
  | other => .error (.wrongType other ("struct " ++ name))

/-- The value of a required field. -/
def required {α : Type} (name : String) : Option α → Except RecordFault α
  | some value => .ok value
  | none => .error (.missingField name)

end Record

end ApiContract
