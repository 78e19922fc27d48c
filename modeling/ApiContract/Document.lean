import ApiContract.File.System
import ApiContract.Json.Reader
import ApiContract.Yaml.Document

/-
This file reads specification documents. A document is YAML or JSON by its name, and becomes one
kind of tree.
-/

namespace ApiContract

/-- The two formats of documents. -/
inductive DocumentFormat where
  | yaml
  | json
  deriving DecidableEq, Repr

namespace DocumentFormat

/-- The format of a file by its extension; anything but JSON is YAML. -/
def ofPath (path : Path) : DocumentFormat :=
  if path.extension?.any (Text.sameIgnoringCase "json") then json else yaml

def name : DocumentFormat → String
  | yaml => "yaml"
  | json => "json"

end DocumentFormat

/-- Whether a file looks like a specification. -/
def Path.isSpecification (path : Path) : Bool :=
  path.extension?.any ["yaml", "yml", "json"].contains

namespace Yaml

/-- Why a YAML tree has no JSON form. -/
inductive ConversionFault where
  | notFinite (number : Numeral)
  | keyNotScalar (key : Node)

def ConversionFault.message : ConversionFault → String
  | notFinite number => "number " ++ number.text ++ " has no JSON representation"
  | keyNotScalar key => "mapping key " ++ key.structureText ++ " is not a scalar"

def Numeral.toJson : Numeral → Except ConversionFault Json
  | .integer value => .ok (.number (.integer value))
  | .float value => .ok (.number (.float value))
  | other => .error (.notFinite other)

/-- The text of a key; numbers and booleans are written out. -/
def Node.keyName : Node → Except ConversionFault String
  | .text value => .ok value
  | .number value => .ok value.text
  | .bool value => .ok (toString value)
  | other => .error (.keyNotScalar other)

mutual

/-- The JSON form of a tree, without its tags. -/
def Node.toJson : Node → Except ConversionFault Json
  | .null => .ok .null
  | .bool value => .ok (.bool value)
  | .number value => value.toJson
  | .text value => .ok (.string value)
  | .sequence items => do return .array (← itemsToJson items)
  | .mapping entries => do return .ofMembers (← entriesToJson entries)
  | .tagged _ content => content.toJson

def itemsToJson : List Node → Except ConversionFault (List Json)
  | [] => .ok []
  | item :: rest => do return (← item.toJson) :: (← itemsToJson rest)

def entriesToJson : List (Node × Node) → Except ConversionFault (List (String × Json))
  | [] => .ok []
  | (key, value) :: rest => do
      let name ← key.keyName
      let content ← value.toJson
      return (name, content) :: (← entriesToJson rest)

end

end Yaml

/-- Why a document cannot be read. -/
inductive DocumentFault where
  | file (fault : FileFault)
  | yaml (error : Yaml.ReadError)
  | json (error : Json.ReadError)
  | conversion (fault : Yaml.ConversionFault)
  | notAMapping

/-- A fault in the document at a path. -/
structure DocumentError where
  path : Path
  fault : DocumentFault

def DocumentError.message (error : DocumentError) : String :=
  let place := "'" ++ error.path.text ++ "'"
  match error.fault with
  | .file fault => "cannot read " ++ place ++ ": " ++ fault.message
  | .yaml reason => "invalid YAML in " ++ place ++ ": " ++ reason.message
  | .json reason => "invalid JSON in " ++ place ++ ": " ++ reason.message
  | .conversion fault => "YAML-to-JSON conversion failed for " ++ place ++ ": " ++ fault.message
  | .notAMapping => "document root of " ++ place ++ " is not a mapping"

namespace Document

/-- The tree of a text. -/
def parse (text : String) (format : DocumentFormat) : Except DocumentFault Json :=
  match format with
  | .json =>
      match Json.parse text with
      | .ok document => .ok document
      | .error error => .error (.json error)
  | .yaml =>
      match Yaml.Node.parse text with
      | .error error => .error (.yaml error)
      | .ok node =>
          match node.toJson with
          | .ok document => .ok document
          | .error fault => .error (.conversion fault)

/-- Reads a file with an object at its root. -/
def read (files : FileSystem) (path : Path) : Except DocumentError Json :=
  match files.readText path with
  | .error fault => .error ⟨path, .file fault⟩
  | .ok text =>
      match parse text (.ofPath path) with
      | .error fault => .error ⟨path, fault⟩
      | .ok document =>
          if document.isObject then .ok document else .error ⟨path, .notAMapping⟩

/-- The document at a path, if it can be read. -/
def load? (files : FileSystem) (path : Path) : Option Json := (read files path).toOption

end Document

end ApiContract
