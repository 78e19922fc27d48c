import ApiContract.Record
import ApiContract.Text.Basic

/-
This file holds what calls of an interface are keyed by: methods, response and request keys, the
candidates for a status, and path templates.
-/

namespace ApiContract

/-- The methods that operations are declared for. -/
inductive Method where
  | get
  | post
  | put
  | delete
  | patch
  deriving DecidableEq, Repr

namespace Method

def all : List Method := [get, post, put, delete, patch]

def name : Method → String
  | get => "GET"
  | post => "POST"
  | put => "PUT"
  | delete => "DELETE"
  | patch => "PATCH"

/-- The method with a name, in any case of its letters. -/
def ofString? (text : String) : Option Method :=
  all.find? fun method => Text.sameIgnoringCase method.name text

/-- The place of a method in the order of its declaration. -/
def rank : Method → Nat
  | get => 0
  | post => 1
  | put => 2
  | delete => 3
  | patch => 4

def unsupportedMessage (text : String) : String := "unsupported HTTP method '" ++ text ++ "'"

end Method

/-- What the schema of a response is stored under. -/
structure ResponseKey where
  method : Method
  path : String
  status : String
  deriving DecidableEq, Repr

namespace ResponseKey

def text (key : ResponseKey) : String := key.method.name ++ " " ++ key.path ++ " " ++ key.status

/-- Keys are ordered by method, then path, then status. -/
def le (first second : ResponseKey) : Bool :=
  first.method.rank < second.method.rank ||
    first.method.rank == second.method.rank &&
      (first.path < second.path || first.path == second.path && !second.status < first.status)

/-- Reads a key from a document. -/
def ofJson : Json → Except RecordFault ResponseKey :=
  Record.record "ResponseKey"
    [("method", fun json (_, path, status) => do
        let value ← Record.variant (Method.all.map fun method => (method.name, method)) json
        return (some value, path, status)),
      ("path", fun json (method, _, status) => do
        return (method, some (← Record.text json), status)),
      ("status", fun json (method, path, _) => do
        return (method, path, some (← Record.text json)))]
    ((none, none, none) : Option Method × Option String × Option String) true
    (fun (method, path, status) => do
      return ⟨← Record.required "method" method, ← Record.required "path" path,
        ← Record.required "status" status⟩)

def toJson (key : ResponseKey) : Json :=
  .ofMembers [("method", .string key.method.name), ("path", .string key.path),
    ("status", .string key.status)]

end ResponseKey

/-- What the schema of a request is stored under. -/
def requestKey (operation : String) : String := operation ++ "_request"

/-- The statuses of a specification that cover a status, the most specific first. -/
def statusCandidates (status : Nat) : List String :=
  [toString status, toString (status / 100) ++ "XX", "default"]

/-- The path of an endpoint below the prefix of the interface, without query and fragment. -/
def endpointPath (endpoint apiPrefix : String) : String :=
  let path := String.ofList (endpoint.toList.takeWhile fun character =>
    character != '?' && character != '#')
  let start := Text.trimMarkEnd '/' apiPrefix
  if start.isEmpty then path
  else
    match Text.stripStart start path with
    | none => path
    | some rest =>
        if rest.isEmpty then "/"
        else if Text.startsWith rest "/" then rest
        else path

/-- A part of a path template. -/
inductive Segment where
  | literal (text : String)
  | parameter
  deriving DecidableEq, Repr

namespace Segment

/-- A segment in braces stands for any value. -/
def ofString (text : String) : Segment :=
  if 2 ≤ text.length ∧ Text.startsWith text "\x7b" ∧ Text.endsWith text "\x7d" then parameter
  else literal text

def allows : Segment → String → Bool
  | literal expected, actual => expected == actual
  | parameter, actual => !actual.isEmpty

end Segment

/-- The parts of a path between slashes that are not empty. -/
def pathSegments (path : String) : List String :=
  (Text.split '/' (Text.trimMark '/' path)).filter fun segment => !segment.isEmpty

/-- A path of a specification, which stands for many endpoints. -/
structure PathTemplate where
  text : String
  segments : List Segment
  deriving DecidableEq, Repr

namespace PathTemplate

def ofString (text : String) : PathTemplate :=
  ⟨text, (pathSegments text).map Segment.ofString⟩

def parameterCount (template : PathTemplate) : Nat := template.segments.count .parameter

def segmentsMatch : List Segment → List String → Bool
  | [], [] => true
  | segment :: segments, actual :: rest => segment.allows actual && segmentsMatch segments rest
  | _, _ => false

def matchesEndpoint (template : PathTemplate) (endpoint : String) : Bool :=
  segmentsMatch template.segments (pathSegments endpoint)

end PathTemplate

end ApiContract
