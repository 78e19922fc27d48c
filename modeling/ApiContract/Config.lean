import ApiContract.Document
import ApiContract.Record

/-
This file holds the configuration: where specifications lie, which modules there are, and which
prefix calls have. Defaults come first, then the file, then the environment, then the command line.
-/

namespace ApiContract

/-- A module and the file of its specification. -/
structure ModuleSpec where
  name : String
  file : String
  deriving DecidableEq, Repr

namespace ModuleSpec

/-- Reads a module from an entry of a list, as a name and a file around an equals sign. -/
def ofEntry? (entry : String) : Option ModuleSpec :=
  match Text.splitOnce '=' entry with
  | none => none
  | some (name, file) =>
      let name := Unicode.trim name
      let file := Unicode.trim file
      if name.isEmpty ∨ file.isEmpty then none else some ⟨name, file⟩

/-- Reads a module from a document. -/
def ofJson : Json → Except RecordFault ModuleSpec :=
  Record.record "ModuleSpec"
    [("name", fun json (_, file) => do return (some (← Record.text json), file)),
      ("file", fun json (name, _) => do return (name, some (← Record.text json)))]
    ((none, none) : Option String × Option String) true
    (fun (name, file) => do
      return ⟨← Record.required "name" name, ← Record.required "file" file⟩)

end ModuleSpec

/-- An entry of a module list that is no module. -/
structure ModuleEntryFault where
  entry : String
  source : String
  deriving DecidableEq, Repr

def ModuleEntryFault.message (fault : ModuleEntryFault) : String :=
  "malformed module entry '" ++ fault.entry ++ "' in " ++ fault.source ++ ": expected NAME=FILE"

/-- The entries of a module list; blank ones do not count. -/
def moduleEntries (list : String) : List String :=
  ((Text.split ',' list).map Unicode.trim).filter fun entry => !entry.isEmpty

/-- Reads a module list. -/
def parseModuleList (list source : String) : Except ModuleEntryFault (List ModuleSpec) :=
  (moduleEntries list).mapM fun entry =>
    match ModuleSpec.ofEntry? entry with
    | some module => .ok module
    | none => .error ⟨entry, source⟩

structure Config where
  specDirectory : Path
  apiPrefix : String
  modelsDirectory : String
  modules : List ModuleSpec
  deriving DecidableEq, Repr

/-- The values of the environment variables that override a configuration. -/
structure Environment where
  specDirectory : Option String
  apiPrefix : Option String
  modules : Option String

namespace Environment

def specDirectoryName : String := "APICHECK_SPEC_DIR"

def apiPrefixName : String := "APICHECK_API_PREFIX"

def modulesName : String := "APICHECK_MODULES"

/-- The values that a look-up gives. -/
def ofLookup (lookup : String → Option String) : Environment :=
  ⟨lookup specDirectoryName, lookup apiPrefixName, lookup modulesName⟩

end Environment

/-- Why there is no configuration. -/
inductive ConfigError where
  | file (error : DocumentError)
  | invalid (path : Path) (fault : RecordFault)
  | moduleEntry (fault : ModuleEntryFault)

def ConfigError.message : ConfigError → String
  | file error => "cannot load config file: " ++ error.message
  | invalid path fault => "invalid config in '" ++ path.text ++ "': " ++ fault.message
  | moduleEntry fault => fault.message

namespace Config

def defaultModules : List ModuleSpec :=
  ["user", "problem", "submission", "forum", "news"].map fun name => ⟨name, name ++ ".yaml"⟩

def default : Config := ⟨⟨"docs/openapi"⟩, "/api/v1", "models", defaultModules⟩

def withSpecDirectory (directory : Path) : Config := { default with specDirectory := directory }

/-- Reads a configuration from a document; missing fields have their defaults. -/
def ofJson : Json → Except RecordFault Config :=
  Record.record "ValidatorConfig"
    [("spec_dir", fun json config => do
        return { config with specDirectory := ⟨← Record.path json⟩ }),
      ("api_prefix", fun json config => do
        return { config with apiPrefix := ← Record.text json }),
      ("models_dir", fun json config => do
        return { config with modelsDirectory := ← Record.text json }),
      ("modules", fun json config => do
        return { config with modules := ← Record.list ModuleSpec.ofJson json })]
    default false .ok

/-- Reads a configuration file. A relative directory in it lies beside the file. -/
def ofFile (files : FileSystem) (path : Path) : Except ConfigError Config :=
  match Document.read files path with
  | .error error => .error (.file error)
  | .ok document =>
      match ofJson document with
      | .error fault => .error (.invalid path fault)
      | .ok config =>
          match path.parent? with
          | none => .ok config
          | some parent => .ok { config with specDirectory := parent.join config.specDirectory }

/-- The configuration after the environment. An empty directory and a blank module list do not
count. A malformed list is reported beside the rest of the overrides. -/
def applyEnvironment (config : Config) (environment : Environment) :
    Config × Option ModuleEntryFault :=
  let directory := environment.specDirectory.filter fun text => !text.isEmpty
  let config :=
    { config with
      specDirectory := (directory.map Path.mk).getD config.specDirectory
      apiPrefix := environment.apiPrefix.getD config.apiPrefix }
  match environment.modules.filter fun list => !(Unicode.trim list).isEmpty with
  | none => (config, none)
  | some list =>
      match parseModuleList list Environment.modulesName with
      | .ok modules => ({ config with modules := modules }, none)
      | .error fault => (config, some fault)

/-- The file of the specification of a module. -/
def specPath (config : Config) (module : ModuleSpec) : Path :=
  config.specDirectory.join ⟨module.file⟩

/-- The first module with a name. -/
def module? (config : Config) (name : String) : Option ModuleSpec :=
  config.modules.find? fun module => module.name == name

end Config

/-- What the command line says about the configuration. -/
structure ConfigFlags where
  file : Option Path
  specDirectory : Option Path
  apiPrefix : Option String

/-- Why the configuration cannot be settled. -/
inductive SettleError where
  | file (path : Path) (error : ConfigError)
  | environment (fault : ModuleEntryFault)

/-- The message with all that led to it. -/
def SettleError.message : SettleError → String
  | .file path error =>
      let causes :=
        match error with
        | .file document =>
            match document.fault with
            | .file fault => [document.message, fault.message]
            | _ => [document.message]
        | _ => []
      String.intercalate ": "
        (("failed to load config file: " ++ path.text) :: error.message :: causes)
  | environment fault => "invalid APICHECK_* environment override: " ++ fault.message

/-- Settles the configuration from all of its sources, where flags win over the environment, and the
environment over the file. -/
def Config.settle (files : FileSystem) (flags : ConfigFlags) (environment : Environment) :
    Except SettleError Config := do
  let base ←
    match flags.file with
    | none => pure Config.default
    | some path =>
        match Config.ofFile files path with
        | .ok config => pure config
        | .error error => .error (.file path error)
  match base.applyEnvironment environment with
  | (_, some fault) => .error (.environment fault)
  | (config, none) =>
      return { config with
        specDirectory := flags.specDirectory.getD config.specDirectory
        apiPrefix := flags.apiPrefix.getD config.apiPrefix }

end ApiContract
