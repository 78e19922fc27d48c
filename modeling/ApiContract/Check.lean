import ApiContract.Reference
import ApiContract.Schema.Compile
import ApiContract.Schema.Dialect
import ApiContract.Schema.Identifier

/-
This file checks values against schemas that are given as documents, and words what it finds.
References that are left in a schema allow everything.
-/

namespace ApiContract

/-- Why a document is no schema. -/
inductive SchemaFault where
  | identifier (fault : SchemaIdentifier.Fault)
  | cause (cause : Cause)

def SchemaFault.message : SchemaFault → String
  | identifier fault => fault.message
  | cause reason => reason.message

/-- The schema that a document describes. -/
def Schema.ofDocument (document : Json) : Except SchemaFault Schema :=
  let document := document.withoutReferences
  match SchemaIdentifier.firstFault? (SchemaDialect.height document) document with
  | some fault => .error (.identifier fault)
  | none =>
      match SchemaDialect.firstCause? document with
      | some cause => .error (.cause cause)
      | none =>
          match Schema.ofRoot document with
          | .ok schema => .ok schema
          | .error cause => .error (.cause cause)

/-- One difference between a value and its schema: the field in words, the place of the value, the
place of the broken rule and the message. -/
structure Violation where
  field : String
  instancePath : String
  schemaPath : String
  message : String
  deriving DecidableEq, Repr

namespace Violation

/-- Writes the steps of a field; positions in arrays stand in brackets, other steps after a dot. -/
def fieldSteps : List String → Option Json → String → String
  | [], _, field => field
  | step :: rest, node, field =>
      let step := Pointer.unescape step
      match node, Text.unsigned? step with
      | some (.array items), some position =>
          fieldSteps rest items[position]? (field ++ "[" ++ step ++ "]")
      | _, _ =>
          let start := if field.isEmpty then field else field ++ "."
          fieldSteps rest (node.bind (·.member? step)) (start ++ step)

/-- The name of the field that a pointer names in a value. -/
def fieldName (pointer : String) (value : Json) : String :=
  match Text.stripStart "/" pointer with
  | none => "root"
  | some rest => fieldSteps (Text.split '/' rest) (some value) ""

def ofFinding (value : Json) (finding : Finding) : Violation :=
  let pointer := finding.instancePath.text
  ⟨fieldName pointer value, pointer, finding.schemaPath.text, finding.cause.message⟩

def line (violation : Violation) : String :=
  "  - " ++ violation.field ++ ": " ++ violation.message

/-- A line for each violation. -/
def lines (violations : List Violation) : String :=
  String.intercalate "\n" (violations.map line)

end Violation

/-- How a check fails. -/
inductive CheckError where
  | violations (list : List Violation)
  | schema (fault : SchemaFault)

def CheckError.message : CheckError → String
  | violations list => "validation failed:\n" ++ Violation.lines list
  | schema fault => "invalid schema: " ++ fault.message

/-- Checks a value against a schema, and collects every violation. -/
def check (document value : Json) : Except CheckError Unit :=
  match Schema.ofDocument document with
  | .error fault => .error (.schema fault)
  | .ok schema =>
      match schema.findings value .root .root with
      | [] => .ok ()
      | findings => .error (.violations (findings.map (Violation.ofFinding value)))

end ApiContract
