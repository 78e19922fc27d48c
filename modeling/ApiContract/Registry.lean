import ApiContract.Config
import ApiContract.ModuleIndex
import ApiContract.Outcome
import ApiContract.Unicode.Case

/-
This file holds the indices of all modules under one configuration, and checks the bodies of calls
against them.
-/

namespace ApiContract

/-- The indices of the modules by name, in the order of the names. -/
structure Registry where
  config : Config
  modules : List (String × ModuleIndex)
  ordered : Table.InOrder modules

namespace Registry

def empty (config : Config) : Registry := ⟨config, [], .nil⟩

/-- Puts an index in its place; one with the same name is replaced. -/
def insert (name : String) (index : ModuleIndex) (registry : Registry) : Registry :=
  { registry with
    modules := Table.insert name index registry.modules
    ordered := registry.ordered.insert name index }

def ofIndices (config : Config) (indices : List ModuleIndex) : Registry :=
  indices.foldl (fun registry index => registry.insert index.name index) (empty config)

/-- The registry with the index of a module, if its specification can be read. -/
def loadModule (files : FileSystem) (config : Config) (registry : Registry) (module : ModuleSpec) :
    Registry :=
  let path := config.specPath module
  if !files.isFile path then registry
  else
    match ModuleIndex.ofFile? files module.name path config.modelsDirectory with
    | some index => registry.insert module.name index
    | none => registry

/-- The registry of all modules whose specification can be read. -/
def load (files : FileSystem) (config : Config) : Registry :=
  if !files.isDirectory config.specDirectory then empty config
  else config.modules.foldl (loadModule files config) (empty config)

/-- The registry with the specifications read again. -/
def reload (files : FileSystem) (registry : Registry) : Registry := load files registry.config

def module? (registry : Registry) (name : String) : Option ModuleIndex :=
  registry.modules.lookup name

def schema? (registry : Registry) (module key : String) : Option Json :=
  (registry.module? module).bind fun index => index.schema? key

/-- The keys of the schemas of one module, or of all. -/
def availableSchemas (registry : Registry) (module : Option String) :
    List (String × List String) :=
  match module with
  | some name => [(name, (registry.module? name).elim [] ModuleIndex.keys)]
  | none => registry.modules.map fun (name, index) => (name, index.keys)

def moduleNotLoaded (module : String) : Outcome :=
  .skipped ("schema not found: module '" ++ module ++ "' has no loaded specification")

def noSchema (wanted module : String) : Outcome :=
  .skipped ("schema not found: " ++ wanted ++ " (module '" ++ module ++ "')")

/-- Checks the body of a response. -/
def checkResponse (registry : Registry) (module method endpoint : String) (status : Nat)
    (body : Json) : Outcome :=
  match registry.module? module with
  | none => moduleNotLoaded module
  | some index =>
      let path := endpointPath endpoint registry.config.apiPrefix
      let wanted := Unicode.upper method ++ " " ++ path ++ " " ++ toString status
      match Method.ofString? method with
      | none => noSchema wanted module
      | some method =>
          match index.responseSchema method path status with
          | none => noSchema wanted module
          | some (key, schema) => .ofCheck schema body key "schema validation failed"

/-- Checks the body of a request. -/
def checkRequest (registry : Registry) (module operation : String) (body : Json) : Outcome :=
  match registry.module? module with
  | none => moduleNotLoaded module
  | some index =>
      match index.requestSchema operation with
      | none => noSchema ("request schema " ++ requestKey operation) module
      | some (key, schema) => .ofCheck schema body key "request schema validation failed"

/-- The lines on one module of a listing. -/
def listingLines (registry : Registry) (entry : String × List String) : List String :=
  let (name, keys) := entry
  let heading :=
    match registry.module? name with
    | none => [name ++ ": no loaded specification"]
    | some index =>
        (name ++ " (" ++ index.specPath.text ++ ", " ++ toString keys.length ++ " schemas)") ::
          if 0 < index.unresolved then
            ["  ! " ++ toString index.unresolved ++ " unresolved references"]
          else []
  heading ++ keys.map fun key => "  " ++ key

/-- The listing of the schemas of one module, or of all. -/
def listing (registry : Registry) (module : Option String) : String :=
  let lines :=
    match registry.availableSchemas module with
    | [] => ["no specifications loaded from " ++ registry.config.specDirectory.text]
    | entries => entries.flatMap registry.listingLines
  String.join (lines.map (· ++ "\n"))

end Registry

end ApiContract
