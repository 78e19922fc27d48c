import ApiContract.Resolver
import ApiContract.Route

/-
This file collects the schemas of all requests and responses of a module, and finds the schema that
covers a call.
-/

namespace ApiContract

/-- A response with a schema, as calls find it. -/
structure ResponseRoute where
  method : Method
  template : PathTemplate
  status : String
  deriving DecidableEq, Repr

def ResponseRoute.key (route : ResponseRoute) : ResponseKey :=
  ⟨route.method, route.template.text, route.status⟩

/-- The schemas of a module by key, in the order of the keys, and the routes of its responses in the
order of their first insertion. -/
structure ModuleIndex where
  name : String
  specPath : Path
  schemas : List (String × Json)
  routes : List ResponseRoute
  unresolved : Nat

namespace ModuleIndex

def empty (name : String) (specPath : Path) : ModuleIndex := ⟨name, specPath, [], [], 0⟩

def schema? (index : ModuleIndex) (key : String) : Option Json := index.schemas.lookup key

def keys (index : ModuleIndex) : List String := index.schemas.map (·.1)

/-- Stores the schema of a response. A key that is new gets a route. -/
def insertResponse (index : ModuleIndex) (key : ResponseKey) (schema : Json) : ModuleIndex :=
  let route : ResponseRoute := ⟨key.method, .ofString key.path, key.status⟩
  { index with
    schemas := Table.insert key.text schema index.schemas
    routes :=
      if (index.schema? key.text).isSome then index.routes else index.routes ++ [route] }

/-- Stores the schema of a request. -/
def insertRequest (index : ModuleIndex) (operation : String) (schema : Json) : ModuleIndex :=
  { index with schemas := Table.insert (requestKey operation) schema index.schemas }

/-- The first route with the fewest parameters. -/
def mostSpecific : List ResponseRoute → Option ResponseRoute
  | [] => none
  | route :: rest =>
      match mostSpecific rest with
      | none => some route
      | some other =>
          if other.template.parameterCount < route.template.parameterCount then some other
          else some route

/-- The routes of a method and a status whose template matches an endpoint. -/
def matchingRoutes (index : ModuleIndex) (method : Method) (endpoint status : String) :
    List ResponseRoute :=
  index.routes.filter fun route =>
    route.method == method && route.status == status && route.template.matchesEndpoint endpoint

/-- The schema for one status of a specification: that of the endpoint itself, or else that of the
most specific template. -/
def schemaForStatus (index : ModuleIndex) (method : Method) (endpoint status : String) :
    Option (String × Json) :=
  let exact := (⟨method, endpoint, status⟩ : ResponseKey).text
  match index.schema? exact with
  | some schema => some (exact, schema)
  | none =>
      match mostSpecific (index.matchingRoutes method endpoint status) with
      | none => none
      | some route => (index.schema? route.key.text).map fun schema => (route.key.text, schema)

/-- The schema that covers a response, with its key. -/
def responseSchema (index : ModuleIndex) (method : Method) (endpoint : String) (status : Nat) :
    Option (String × Json) :=
  (statusCandidates status).findSome? fun candidate =>
    index.schemaForStatus method endpoint candidate

/-- The schema of a request, with its key. -/
def requestSchema (index : ModuleIndex) (operation : String) : Option (String × Json) :=
  (index.schema? (requestKey operation)).map fun schema => (requestKey operation, schema)

/-- Whether a media type is a kind of JSON. -/
def isJsonMedia (media : String) : Bool :=
  Text.startsWith media "application/json" || Text.endsWith media "+json"

/-- The JSON entry of a content object. -/
def jsonMedia? (content : List (String × Json)) : Option Json :=
  content.lookup "application/json" <|>
    (content.find? fun entry => isJsonMedia entry.1).map (·.2)

/-- The schema of a body or response that is given itself. -/
def contentSchema? (object : Json) : Option Json := do
  (← jsonMedia? (← (← object.member? "content").object?)).member? "schema"

/-- The resolved schema of a body or a response in a file, which may be a reference. -/
def readContent (files : FileSystem) (bound : Nat) (node : Json) (file : Path)
    (resolver : Resolver) : Option Json × Resolver :=
  let (object, resolver) :=
    match node.reference? with
    | none => (some (node, file), resolver)
    | some text =>
        let (resolved, resolver) := resolver.resolveWithin files bound text file none
        (resolved.map fun found => (found.value, found.file), resolver)
  match object with
  | none => (none, resolver)
  | some (object, file) =>
      match contentSchema? object with
      | none => (none, resolver)
      | some schema =>
          let (schema, resolver) := resolver.resolveTreeWithin files bound schema file
          (some schema, resolver)

/-- An operation of a specification. -/
structure Operation where
  method : Method
  path : String
  identifier : String
  content : Json

/-- The responses of an operation by status. -/
def Operation.responses (operation : Operation) : List (String × Json) :=
  (operation.content.member? "responses").elim [] Json.members

/-- The operation of a member of a path item; only methods are operations. An operation without an
identifier gets one from the name of the member and the path. -/
def operation? (path name : String) (content : Json) : Option Operation :=
  (Method.ofString? name).map fun method =>
    let given := (content.member? "operationId").bind Json.string?
    ⟨method, path, given.getD (name ++ "_" ++ path), content⟩

/-- All operations of a specification, in the order of paths and members. -/
def operations (spec : Json) : List Operation :=
  ((spec.member? "paths").elim [] Json.members).flatMap fun (path, item) =>
    item.members.filterMap fun (name, content) => operation? path name content

/-- Stores the schema of the request of an operation. -/
def addRequest (files : FileSystem) (bound : Nat) (operation : Operation)
    (state : ModuleIndex × Resolver) : ModuleIndex × Resolver :=
  match operation.content.member? "requestBody" with
  | none => state
  | some body =>
      match readContent files bound body state.1.specPath state.2 with
      | (none, resolver) => (state.1, resolver)
      | (some schema, resolver) => (state.1.insertRequest operation.identifier schema, resolver)

/-- Stores the schema of a response of an operation. -/
def addResponse (files : FileSystem) (bound : Nat) (operation : Operation)
    (state : ModuleIndex × Resolver) (response : String × Json) : ModuleIndex × Resolver :=
  match readContent files bound response.2 state.1.specPath state.2 with
  | (none, resolver) => (state.1, resolver)
  | (some schema, resolver) =>
      (state.1.insertResponse ⟨operation.method, operation.path, response.1⟩ schema, resolver)

/-- Stores the schemas of an operation. -/
def addOperation (files : FileSystem) (bound : Nat) (state : ModuleIndex × Resolver)
    (operation : Operation) : ModuleIndex × Resolver :=
  operation.responses.foldl (addResponse files bound operation)
    (addRequest files bound operation state)

/-- The documents that are known before the operations of a specification are read: those of the
models directory, and the specification itself in the place of its file. -/
def startCache (files : FileSystem) (specPath : Path) (spec : Json) (modelsDirectory : String) :
    DocumentCache :=
  let preloaded :=
    match specPath.parent? with
    | none => DocumentCache.empty
    | some parent => (DocumentCache.empty.preload files (parent.join ⟨modelsDirectory⟩)).2
  preloaded.insert files specPath spec

/-- The index of a specification. -/
def ofSpecification (files : FileSystem) (name : String) (specPath : Path) (spec : Json)
    (modelsDirectory : String) : ModuleIndex :=
  let specPath := (files.canonical? specPath).getD specPath
  let cache := startCache files specPath spec modelsDirectory
  let bound := Resolver.targetBound files cache specPath []
  let (index, resolver) :=
    (operations spec).foldl (addOperation files bound) (empty name specPath, .ofCache cache)
  { index with unresolved := resolver.unresolved }

/-- The index of the specification in a file. -/
def ofFile? (files : FileSystem) (name : String) (specPath : Path) (modelsDirectory : String) :
    Option ModuleIndex :=
  (Document.load? files specPath).map fun spec =>
    ofSpecification files name specPath spec modelsDirectory

end ModuleIndex

end ApiContract
