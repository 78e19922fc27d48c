import ApiContract.Json.Pointer

/-
This file reads references and follows their pointers. A reference names a place in its own document
or in another file; a node of a document that is a reference is an object with a textual `$ref`
member.
-/

namespace ApiContract

/-- A place that a reference names: a pointer into its own document, or a file and a pointer into
it. -/
inductive Reference where
  | inDocument (pointer : String)
  | inFile (file pointer : String)
  deriving DecidableEq, Repr

namespace Reference

/-- Whether a text holds the mark between the scheme and the authority of a locator. -/
def hasScheme : List Char → Bool
  | ':' :: '/' :: '/' :: _ => true
  | _ :: rest => hasScheme rest
  | [] => false

/-- A file of a reference is a relative path. -/
def isRelativeFile (file : String) : Bool :=
  !file.isEmpty && !hasScheme file.toList && !Text.startsWith file "/"

/-- Reads a reference; a text of neither shape is none. -/
def ofString? (text : String) : Option Reference :=
  match Text.stripStart "#" text with
  | some pointer => some (inDocument pointer)
  | none =>
      let (file, pointer) := (Text.splitOnce '#' text).getD (text, "")
      if isRelativeFile file then some (inFile file pointer) else none

def pointer : Reference → String
  | inDocument pointer => pointer
  | inFile _ pointer => pointer

end Reference

namespace Json

/-- The text of a node that is a reference. -/
def reference? (node : Json) : Option String := (node.member? "$ref").bind string?

/-- One step down: a member of an object, or an item of an array by its decimal position. -/
def child? (node : Json) (step : String) : Option Json :=
  match node with
  | object members => members.lookup step
  | array items => (Text.unsigned? step).bind fun position => items[position]?
  | _ => none

/-- The value at a pointer. Outer slashes are ignored, and the empty pointer names the whole
document. -/
def at? (document : Json) (pointer : String) : Option Json :=
  let trimmed := Text.trimMark '/' pointer
  if trimmed.isEmpty then some document
  else
    (Text.split '/' trimmed).foldlM (fun node step => node.child? (Pointer.unescape step)) document

mutual

/-- Whether a document has a reference in it. -/
def hasReference (node : Json) : Bool :=
  node.reference?.isSome ||
    match node with
    | object members => anyMemberHasReference members
    | array items => anyItemHasReference items
    | _ => false

def anyItemHasReference : List Json → Bool
  | [] => false
  | item :: rest => hasReference item || anyItemHasReference rest

def anyMemberHasReference : List (String × Json) → Bool
  | [] => false
  | (_, value) :: rest => hasReference value || anyMemberHasReference rest

end

mutual

/-- The document with an empty object in place of each reference. -/
def stripReferences (node : Json) : Json :=
  if node.reference?.isSome then object []
  else
    match node with
    | object members => object (stripMembers members)
    | array items => array (stripItems items)
    | other => other

def stripItems : List Json → List Json
  | [] => []
  | item :: rest => stripReferences item :: stripItems rest

def stripMembers : List (String × Json) → List (String × Json)
  | [] => []
  | (key, value) :: rest => (key, stripReferences value) :: stripMembers rest

end

/-- The document without references; a document that has none stays as it is. -/
def withoutReferences (document : Json) : Json :=
  if document.hasReference then document.stripReferences else document

end Json

end ApiContract
