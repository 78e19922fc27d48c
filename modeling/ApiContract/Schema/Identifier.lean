import ApiContract.Schema.Draft
import ApiContract.Uri.Resolution

/-
This file finds the identifiers that a schema and its inner schemas declare. Each is resolved
against the identifier of the schema around it, and every inner schema has a known draft.
-/

namespace ApiContract.SchemaIdentifier

/-- Why the schemas inside a schema cannot be identified. -/
inductive Fault where
  | unknownDraft (name : String)
  | invalidReference (text : String) (fault : Uri.Fault)
  | unresolved (text : String) (base : Uri) (fault : Uri.ResolutionFault)

def Fault.message : Fault → String
  | unknownDraft name => "Unknown specification: " ++ name
  | invalidReference text fault => "Invalid URI reference '" ++ text ++ "': " ++ fault.message
  | unresolved text base fault =>
      "Failed to resolve '" ++ text ++ "' against '" ++ base.text ++ "': " ++ fault.message

/-- The text of the member that identifies a schema. Up to the seventh draft, it has no meaning
beside a reference or if it starts with a number sign. -/
def declared? (draft : Draft) (schema : Json) : Option String :=
  let identifier? :=
    (schema.member? (if draft = .draft4 then "id" else "$id")).bind Json.string?
  identifier?.bind fun identifier =>
    if !draft.since .draft2019 ∧
        ((schema.member? "$ref").isSome ∨ Text.startsWith identifier "#") then none
    else some (Text.trimMarkEnd '#' identifier)

def readReference (text : String) : Except Fault Uri :=
  match Uri.read false text with
  | .ok reference => .ok reference
  | .error fault => .error (.invalidReference text fault)

/-- The identifier that a text stands for under a base. -/
def resolve (base : Uri) (text : String) : Except Fault Uri :=
  if Text.startsWith text "#" && Text.endsWith base.text text then .ok base
  else
    match readReference text with
    | .error fault => .error fault
    | .ok reference =>
        match Uri.resolve base reference with
        | .ok found => .ok found.normal
        | .error fault => .error (.unresolved text base fault)

/-- How a keyword holds schemas. -/
inductive Holding where
  | one
  | list
  | named
  | oneOrList

/-- How a keyword holds the schemas that are identified in a draft. -/
def holding? (draft : Draft) (keyword : String) : Option Holding :=
  let onlySince := fun first holding => if draft.since first then some holding else none
  match keyword with
  | "allOf" | "anyOf" | "oneOf" => some .list
  | "definitions" | "patternProperties" | "properties" => some .named
  | "not" | "additionalProperties" => some .one
  | "contains" | "propertyNames" => onlySince .draft6 .one
  | "if" | "then" | "else" => onlySince .draft7 .one
  | "contentSchema" | "unevaluatedItems" | "unevaluatedProperties" => onlySince .draft2019 .one
  | "$defs" | "dependentSchemas" => onlySince .draft2019 .named
  | "dependencies" => if draft.since .draft2019 then none else some .named
  | "additionalItems" => if draft.since .draft2020 then none else some .one
  | "items" => some (if draft.since .draft2020 then .one else .oneOrList)
  | "prefixItems" => onlySince .draft2020 .list
  | _ => none

/-- The schemas inside the value of a keyword. -/
def Holding.schemas : Holding → Json → List Json
  | one, value => [value]
  | list, value => value.items
  | named, value => value.members.map (·.2)
  | oneOrList, .array items => items
  | oneOrList, value => [value]

/-- A schema with its identifier and its draft. -/
structure Place where
  base : Uri
  draft : Draft
  schema : Json

/-- The place of a schema inside another. -/
def Place.inner (outer : Place) (schema : Json) : Except Fault Place := do
  match outer.draft.inside schema with
  | .error name => .error (.unknownDraft name)
  | .ok draft =>
      match declared? draft schema with
      | none => return ⟨outer.base, draft, schema⟩
      | some text => return ⟨← resolve outer.base text, draft, schema⟩

/-- The places of the schemas directly inside another. -/
def Place.inners (outer : Place) : Except Fault (List Place) :=
  let schemas := outer.schema.members.flatMap fun (keyword, value) =>
    (holding? outer.draft keyword).elim [] (·.schemas value)
  schemas.mapM outer.inner

/-- Identifies schemas and those inside them, level by level; the number bounds the levels. -/
def identifyAll : Nat → List Place → Except Fault Unit
  | 0, _ => .ok ()
  | bound + 1, places => do
      let inners ← places.mapM Place.inners
      if inners.flatten.isEmpty then return () else identifyAll bound inners.flatten

/-- The identifier under which a document is read, by its own text. -/
def documentBase (text : String) : Except Fault Uri := do
  let reference := (← readReference text).normal
  if reference.scheme.isSome then return reference
  else
    match Uri.resolve Uri.root reference with
    | .ok base => return base
    | .error fault => throw (.unresolved text Uri.root fault)

/-- The place of a whole document. Its identifier is resolved against itself, and then the name of
its draft against that. -/
def documentPlace (document : Json) : Except Fault Place := do
  let base ←
    match declared? .draft7 document with
    | none => pure Uri.root
    | some text => resolve (← documentBase text) text
  match Draft.asked? document with
  | none => return ⟨base, .draft7, document⟩
  | some name =>
      let isNamed := base.scheme == some "urn".toList
      if !(isNamed || Draft.isOwnName name || Text.startsWith name "#") then
        let _ ← resolve base name
      return ⟨base, .draft7, document⟩

/-- The first fault among the identifiers of a document and the schemas inside it. -/
def firstFault? (levels : Nat) (document : Json) : Option Fault :=
  match documentPlace document >>= fun place => identifyAll levels [place] with
  | .ok () => none
  | .error fault => some fault

end ApiContract.SchemaIdentifier
