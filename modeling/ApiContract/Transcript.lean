import ApiContract.Json.Skip
import ApiContract.Registry
import ApiContract.Summary

/-
This file reads transcripts of recorded calls, and checks all calls of a transcript. A fault of a
record is reported after the record, any other one where it is met.
-/

namespace ApiContract

/-- A call and the body of its response. -/
structure RecordedCall where
  module : String
  method : String
  path : String
  status : Nat
  body : Json

def callLabel (module method path : String) (status : Nat) : String :=
  module ++ ": " ++ Unicode.upper method ++ " " ++ path ++ " " ++ toString status

def RecordedCall.label (call : RecordedCall) : String :=
  callLabel call.module call.method call.path call.status

namespace Transcript

open Json

/-- What is wrong with the text of a transcript. -/
inductive TextFault where
  | json (fault : ReadFault)
  | record (fault : RecordFault)

/-- A fault and where it is reported. -/
structure TextError where
  fault : TextFault
  position : ReadPosition

def TextFault.message : TextFault → String
  | json fault => fault.message
  | record fault => fault.message

def TextError.message (error : TextError) : String :=
  error.fault.message ++ " at line " ++ toString error.position.line ++ " column " ++
    toString error.position.column

def ofRead {α : Type} : Except ReadError α → Except TextError α
  | .ok value => .ok value
  | .error error => .error ⟨.json error.fault, error.position⟩

def fail {α : Type} (rest : Rest) (fault : ReadFault) : Except TextError α :=
  ofRead (rest.failNext fault)

/-- A value of the wrong type. Scalars are read before they are reported. -/
def failType {α : Type} (expected : String) (rest : Rest) : Except TextError α := do
  let report := fun (found : Json) (rest : Rest) =>
    Except.error (⟨.record (.wrongType found expected), rest.position⟩ : TextError)
  match rest.characters with
  | '[' :: _ => report (.array []) rest
  | '\x7b' :: _ => report (.object []) rest
  | _ =>
      let (found, rest) ← ofRead (readValue (rest.characters.length + 2) 0 rest)
      report found rest

/-- Reads a string. -/
def readText (rest : Rest) : Except TextError (String × Rest) :=
  let rest := rest.skipBlanks
  match rest.characters with
  | [] => fail rest .endInValue
  | '"' :: _ => ofRead (readString (rest.characters.length + 1) [] rest.skip)
  | _ => failType "a string" rest

def greatestStatus : Nat := 65535

/-- Reads a status. -/
def readStatus (rest : Rest) : Except TextError (Nat × Rest) := do
  let rest := rest.skipBlanks
  let (found, rest) ←
    match rest.characters with
    | [] => fail rest .endInValue
    | '-' :: _ => ofRead (readNumber true rest.skip)
    | character :: _ =>
        if (digitValue? character).isSome then ofRead (readNumber false rest)
        else failType "u16" rest
  match found with
  | .integer (.ofNat value) =>
      if value ≤ greatestStatus then return (value, rest)
      else .error ⟨.record (.wrongValue (.number found) "u16"), rest.position⟩
  | .integer _ => .error ⟨.record (.wrongValue (.number found) "u16"), rest.position⟩
  | .float _ => .error ⟨.record (.wrongType (.number found) "u16"), rest.position⟩

/-- The levels that the body of a call may open; the list and the record take two. -/
def bodyDepth : Nat := greatestDepth - 2

def readBody (rest : Rest) : Except TextError (Json × Rest) :=
  ofRead (readValue (2 * rest.characters.length + 4) bodyDepth rest)

/-- The fields of a call that were read. -/
structure Fields where
  module : Option String
  method : Option String
  path : Option String
  status : Option Nat
  body : Option Json

def Fields.none : Fields := ⟨.none, .none, .none, .none, .none⟩

/-- The call with some fields; only the body may be missing. -/
def Fields.finish (fields : Fields) : Except RecordFault RecordedCall := do
  return ⟨← Record.required "module" fields.module, ← Record.required "method" fields.method,
    ← Record.required "path" fields.path, ← Record.required "status" fields.status,
    fields.body.getD .null⟩

/-- Whether a field was read before. -/
def Fields.has (fields : Fields) (key : String) : Bool :=
  match key with
  | "module" => fields.module.isSome
  | "method" => fields.method.isSome
  | "path" => fields.path.isSome
  | "status" => fields.status.isSome
  | "body" => fields.body.isSome
  | _ => false

/-- Reads the value of a field; the values of other keys are skipped. -/
def readField (fields : Fields) (key : String) (rest : Rest) :
    Except TextError (Fields × Rest) := do
  match key with
  | "module" =>
      let (value, rest) ← readText rest
      return ({ fields with module := some value }, rest)
  | "method" =>
      let (value, rest) ← readText rest
      return ({ fields with method := some value }, rest)
  | "path" =>
      let (value, rest) ← readText rest
      return ({ fields with path := some value }, rest)
  | "status" =>
      let (value, rest) ← readStatus rest
      return ({ fields with status := some value }, rest)
  | "body" =>
      let (value, rest) ← readBody rest
      return ({ fields with body := some value }, rest)
  | _ => return (fields, ← ofRead (skipValue rest))

/-- The place where a fault of an object is reported: after its end, if that comes next. -/
def afterObject (rest : Rest) : ReadPosition :=
  let rest := rest.skipBlanks
  match rest.characters with
  | '\x7d' :: _ => rest.skip.position
  | _ => rest.position

/-- The place where a fault of an array is reported: after its end or a comma, if one comes next. -/
def afterArray (rest : Rest) : ReadPosition :=
  let rest := rest.skipBlanks
  match rest.characters with
  | ']' :: _ => rest.skip.position
  | ',' :: _ => rest.skip.skipBlanks.position
  | _ => rest.position

/-- Steps to the next key of an object; there is none at its end. -/
def nextKey (first : Bool) (rest : Rest) : Except TextError (Option (String × Rest) × Rest) := do
  let rest := rest.skipBlanks
  let readKey := fun (rest : Rest) => do
    let (key, rest) ← ofRead (readString (rest.characters.length + 1) [] rest.skip)
    return (some (key, rest), rest)
  match rest.characters with
  | [] => fail rest .endInObject
  | '\x7d' :: _ => return (none, rest)
  | character :: _ =>
      if first then
        if character = '"' then readKey rest else fail rest .keyNotString
      else if character = ',' then
        let rest := rest.skip.skipBlanks
        match rest.characters with
        | [] => fail rest .endInValue
        | '"' :: _ => readKey rest
        | '\x7d' :: _ => fail rest .trailingComma
        | _ => fail rest .keyNotString
      else fail rest .expectedObjectCommaOrEnd

def readColon (rest : Rest) : Except TextError Rest :=
  let rest := rest.skipBlanks
  match rest.characters with
  | [] => fail rest .endInObject
  | ':' :: _ => .ok rest.skip
  | _ => fail rest .expectedColon

/-- Reads the members of a record up to its end, which stays. The number bounds them. -/
def readMembers : Nat → Bool → Fields → Rest → Except TextError (Fields × Rest)
  | 0, _, fields, rest => .ok (fields, rest)
  | fuel + 1, first, fields, rest => do
      match ← nextKey first rest with
      | (none, rest) => return (fields, rest)
      | (some (key, _), rest) =>
          if fields.has key then
            .error ⟨.record (.repeatedField key), afterObject rest⟩
          else
            let (fields, rest) ← readField fields key (← readColon rest)
            readMembers fuel false fields rest

/-- Steps to the next item of an array; there is none at its end. -/
def nextItem (first : Bool) (rest : Rest) : Except TextError (Bool × Rest) :=
  let rest := rest.skipBlanks
  match rest.characters with
  | [] => fail rest .endInList
  | ']' :: _ => .ok (false, rest)
  | character :: _ =>
      if first then .ok (true, rest)
      else if character = ',' then
        let rest := rest.skip.skipBlanks
        match rest.characters with
        | [] => fail rest .endInValue
        | ']' :: _ => fail rest .trailingComma
        | _ => .ok (true, rest)
      else fail rest .expectedListCommaOrEnd

def fieldNames : List String := ["module", "method", "path", "status", "body"]

/-- Reads the items of a record in the order of its fields. -/
def readItems : List String → Nat → Fields → Rest → Except TextError (Fields × Rest)
  | [], _, fields, rest => .ok (fields, rest)
  | name :: names, count, fields, rest => do
      match ← nextItem (count == 0) rest with
      | (true, rest) =>
          let (fields, rest) ← readField fields name rest
          readItems names (count + 1) fields rest
      | (false, rest) =>
          if name = "body" then return (fields, rest)
          else
            .error ⟨.record (.tooFewItems count "RecordedCall" fieldNames.length), afterArray rest⟩

/-- Steps over the end of an array. -/
def endArray (rest : Rest) : Except TextError Rest :=
  let rest := rest.skipBlanks
  match rest.characters with
  | [] => fail rest .endInList
  | ']' :: _ => .ok rest.skip
  | ',' :: _ =>
      let rest := rest.skip.skipBlanks
      if rest.characters.head? = some ']' then fail rest .trailingComma
      else fail rest .trailingCharacters
  | _ => fail rest .trailingCharacters

/-- Reads a call: an object, or an array of its fields. -/
def readCall (rest : Rest) : Except TextError (RecordedCall × Rest) := do
  let rest := rest.skipBlanks
  match rest.characters with
  | [] => fail rest .endInValue
  | '[' :: _ =>
      let (fields, rest) ← readItems fieldNames 0 .none rest.skip
      match fields.finish with
      | .ok call => return (call, ← endArray rest)
      | .error fault => .error ⟨.record fault, afterArray rest⟩
  | '\x7b' :: _ =>
      let (fields, rest) ← readMembers rest.characters.length true .none rest.skip
      match fields.finish with
      | .ok call => return (call, rest.skip)
      | .error fault => .error ⟨.record fault, afterObject rest⟩
  | _ => failType "struct RecordedCall" rest

/-- Reads calls up to the end of their list. The number bounds them. -/
def readCalls : Nat → Bool → Rest → Except TextError (List RecordedCall × Rest)
  | 0, _, rest => .ok ([], rest)
  | fuel + 1, first, rest => do
      match ← nextItem first rest with
      | (false, rest) => return ([], rest.skip)
      | (true, rest) =>
          let (call, rest) ← readCall rest
          let (calls, rest) ← readCalls fuel false rest
          return (call :: calls, rest)

/-- Reads a transcript. -/
def parse (text : String) : Except TextError (List RecordedCall) := do
  let rest := (Rest.ofString text).skipBlanks
  match rest.characters with
  | [] => fail rest .endInValue
  | '[' :: _ =>
      let (calls, rest) ← readCalls (rest.characters.length + 1) true rest.skip
      let rest := rest.skipBlanks
      if rest.characters.isEmpty then return calls else fail rest .trailingCharacters
  | _ => failType "a sequence" rest

/-- Why a transcript cannot be read. -/
inductive LoadError where
  | unreadable (path : Path) (fault : FileFault)
  | malformed (path : Path) (error : TextError)

def LoadError.message : LoadError → String
  | unreadable path fault =>
      "failed to read transcript: " ++ path.text ++ ": " ++ fault.message
  | malformed path error => "malformed transcript: " ++ path.text ++ ": " ++ error.message

/-- Reads the transcript in a file. -/
def load (files : FileSystem) (path : Path) : Except LoadError (List RecordedCall) :=
  match files.readText path with
  | .error fault => .error (.unreadable path fault)
  | .ok text =>
      match parse text with
      | .error error => .error (.malformed path error)
      | .ok calls => .ok calls

/-- The outcomes of all calls of a transcript with their labels. -/
def outcomes (registry : Registry) (calls : List RecordedCall) : List (String × Outcome) :=
  calls.map fun call =>
    (call.label,
      registry.checkResponse call.module call.method call.path call.status call.body)

/-- Checks all calls of a transcript. -/
def replay (registry : Registry) (calls : List RecordedCall) : Summary :=
  (outcomes registry calls).foldl (fun summary (label, outcome) => summary.record label outcome)
    .empty

end Transcript

end ApiContract
