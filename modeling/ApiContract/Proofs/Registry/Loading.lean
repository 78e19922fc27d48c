import ApiContract.Proofs.File.Overwriting
import ApiContract.Proofs.Index.Completeness
import ApiContract.Proofs.Traversal
import ApiContract.Registry

/-
This file says which specification each module of a loaded registry comes from. Where a name is listed
several times, the registry has the last entry that can be read, while the configuration gives the
first.
-/

namespace ApiContract

namespace FileSystem

/-- A file has a canonical path. -/
theorem exists_canonical?_of_isFile {files : FileSystem} {path : Path}
    (file : files.isFile path = true) : ∃ key, files.canonical? path = some key := by
  rw [isFile, nodeOf?] at file
  cases opened : files.openPlace path with
  | error fault =>
      rw [opened] at file
      cases file
  | ok place =>
      refine ⟨pathOf place, ?_⟩
      rw [canonical?, locate_of_openPlace opened]

end FileSystem

namespace ModuleIndex

theorem specPath_storeAll (index : ModuleIndex) (entries : List (Declaration × Json)) :
    (index.storeAll entries).specPath = index.specPath := by
  induction entries generalizing index with
  | nil => rfl
  | cons entry rest ih => exact (ih _).trans (store_specPath index entry.1 entry.2)

/-- An index has the path of its specification in the canonical form, if there is one. -/
theorem specPath_ofSpecification (files : FileSystem) (name : String) (specPath : Path) (spec : Json)
    (modelsDirectory : String) :
    (ofSpecification files name specPath spec modelsDirectory).specPath = home files specPath := by
  rw [ofSpecification_eq]
  exact specPath_storeAll _ _

end ModuleIndex

namespace Config

/-- Whether the specification of an entry of the module list is there and can be read. -/
def IsReadable (config : Config) (files : FileSystem) (module : ModuleSpec) : Prop :=
  files.isFile (config.specPath module) = true ∧
    (Document.load? files (config.specPath module)).isSome = true

instance (config : Config) (files : FileSystem) (module : ModuleSpec) :
    Decidable (config.IsReadable files module) :=
  inferInstanceAs (Decidable (_ ∧ _))

/-- Whether an entry of the module list is the last with a name whose specification can be read. -/
structure IsLastReadable (config : Config) (files : FileSystem) (name : String)
    (module : ModuleSpec) : Prop where
  named : module.name = name
  readable : config.IsReadable files module
  last : ∃ before after, config.modules = before ++ module :: after ∧
    ∀ later ∈ after, later.name = name → ¬config.IsReadable files later

/-- The index of the specification that an entry of the module list names. -/
def indexOf? (config : Config) (files : FileSystem) (module : ModuleSpec) : Option ModuleIndex :=
  if files.isFile (config.specPath module) then
    ModuleIndex.ofFile? files module.name (config.specPath module) config.modelsDirectory
  else none

variable {config : Config} {files : FileSystem} {module : ModuleSpec} {index : ModuleIndex}

/-- A module has an index if its specification can be read. -/
theorem indexOf?_eq_some_iff :
    config.indexOf? files module = some index ↔ config.IsReadable files module ∧
      ModuleIndex.ofFile? files module.name (config.specPath module) config.modelsDirectory =
        some index := by
  rw [indexOf?, IsReadable]
  split
  · next file =>
      refine ⟨fun made => ⟨⟨file, ?_⟩, made⟩, And.right⟩
      obtain ⟨spec, loaded, _⟩ := Option.map_eq_some_iff.mp made
      rw [loaded, Option.isSome_some]
  · next missing => exact ⟨nofun, fun made => absurd made.1.1 missing⟩

/-- A module is readable if it has an index. -/
theorem isReadable_iff : config.IsReadable files module ↔
    (config.indexOf? files module).isSome = true := by
  rw [indexOf?, IsReadable]
  split
  · next file => rw [ModuleIndex.ofFile?, Option.isSome_map, and_iff_right file]
  · next missing => exact iff_of_false (fun readable => missing readable.1) nofun

/-- The index that an entry of the module list gives for a name. -/
def suppliedBy? (config : Config) (files : FileSystem) (name : String) (module : ModuleSpec) :
    Option ModuleIndex :=
  if module.name = name then config.indexOf? files module else none

/-- The last entry that supplies a name is the last readable one of that name. -/
theorem exists_isLastReadable_iff (name : String) :
    config.modules.reverse.findSome? (config.suppliedBy? files name) = some index ↔
      ∃ last, config.IsLastReadable files name last ∧
        ModuleIndex.ofFile? files name (config.specPath last) config.modelsDirectory =
          some index := by
  rw [List.findSome?_eq_some_iff]
  constructor
  · rintro ⟨after, last, before, parts, supplied, others⟩
    rw [suppliedBy?, Option.ite_none_right_eq_some, indexOf?_eq_some_iff] at supplied
    obtain ⟨rfl, readable, made⟩ := supplied
    refine ⟨last, ⟨rfl, readable, before.reverse, after.reverse, ?_, ?_⟩, made⟩
    · rw [← List.reverse_reverse config.modules, parts]
      simp
    · intro later member same readable'
      have nothing := others later (List.mem_reverse.mp member)
      rw [suppliedBy?, if_pos same] at nothing
      rw [isReadable_iff, nothing] at readable'
      cases readable'
  · rintro ⟨last, ⟨rfl, readable, before, after, parts, others⟩, made⟩
    refine ⟨after.reverse, last, before.reverse, by simp [parts], ?_, ?_⟩
    · rw [suppliedBy?, if_pos rfl, indexOf?_eq_some_iff]
      exact ⟨readable, made⟩
    · intro later member
      rw [suppliedBy?, ite_eq_right_iff]
      intro same
      have unread := others later (List.mem_reverse.mp member) same
      rwa [isReadable_iff, Bool.not_eq_true, Option.isSome_eq_false_iff, Option.isNone_iff_eq_none]
        at unread

end Config

namespace Registry

/-- Inserting an index changes the module of its own name only. -/
theorem module?_insert (registry : Registry) (name other : String) (index : ModuleIndex) :
    (registry.insert name index).module? other =
      if other = name then some index else registry.module? other :=
  Table.lookup_insert name other index registry.modules

/-- Loading a module inserts its index, if it has one. -/
theorem loadModule_eq (files : FileSystem) (config : Config) (registry : Registry)
    (module : ModuleSpec) : registry.loadModule files config module =
      (config.indexOf? files module).elim registry fun index => registry.insert module.name index := by
  rw [loadModule, Config.indexOf?]
  cases files.isFile (config.specPath module) with
  | false => rfl
  | true =>
      rw [if_pos rfl]
      cases ModuleIndex.ofFile? files module.name (config.specPath module)
        config.modelsDirectory <;> simp

/-- Of the entries that give an index for a name, the last does. -/
theorem module?_loadModules (files : FileSystem) (config : Config) (entries : List ModuleSpec)
    (name : String) :
    (entries.foldl (loadModule files config) (empty config)).module? name =
      entries.reverse.findSome? (config.suppliedBy? files name) := by
  -- from the end of the list: what the last entry stores is found before what the others stored
  induction entries using List.reverseRecOn with
  | nil => rfl
  | append_singleton entries entry ih =>
      rw [List.foldl_append, List.foldl_cons, List.foldl_nil, List.reverse_append,
        List.reverse_singleton, List.singleton_append, List.findSome?_cons, ← ih, loadModule_eq,
        Config.suppliedBy?]
      cases config.indexOf? files entry with
      | none => simp
      | some index =>
          rw [Option.elim_some, module?_insert]
          by_cases same : entry.name = name
          · rw [if_pos same.symm, if_pos same]
          · rw [if_neg (Ne.symm same), if_neg same]

/-- A loaded registry has the index of the last entry of a name that can be read, if its directory
is there. -/
theorem module?_load_eq_some_iff (files : FileSystem) (config : Config) (name : String)
    (index : ModuleIndex) :
    (load files config).module? name = some index ↔
      files.isDirectory config.specDirectory = true ∧
        ∃ last, config.IsLastReadable files name last ∧
          ModuleIndex.ofFile? files name (config.specPath last) config.modelsDirectory =
            some index := by
  rw [load, ← Config.exists_isLastReadable_iff]
  cases files.isDirectory config.specDirectory with
  | false => exact iff_of_false nofun fun made => Bool.false_ne_true made.1
  | true => rw [if_neg (by decide), module?_loadModules, and_iff_right rfl]

/-- The index of a name is that of its last readable entry, whereas the configuration gives the
first one; they agree if both lead to one file. -/
theorem loaded_from_last_readable (files : FileSystem) (config : Config) (registry : Registry)
    (loaded : registry = .load files config ∨
      ∃ earlier : Registry, earlier.config = config ∧ registry = earlier.reload files)
    (name : String) :
    -- There is an index exactly if the directory is there and an entry can be read.
    (∀ index, registry.module? name = some index ↔
      files.isDirectory config.specDirectory = true ∧
        ∃ last, config.IsLastReadable files name last ∧
          ModuleIndex.ofFile? files name (config.specPath last) config.modelsDirectory =
            some index) ∧
    -- The configuration gives the first entry, which may have another file.
    ∀ index, registry.module? name = some index →
      ∃ first last, config.module? name = some first ∧ config.IsLastReadable files name last ∧
        files.canonical? (config.specPath last) = some index.specPath ∧
        (files.canonical? (config.specPath first) = some index.specPath ↔
          files.canonical? (config.specPath first) = files.canonical? (config.specPath last)) ∧
        ((∀ other ∈ config.modules, other.name = name → other.file = first.file) →
          ModuleIndex.ofFile? files name (config.specPath first) config.modelsDirectory =
              some index ∧
            files.canonical? (config.specPath first) = some index.specPath) := by
  have same : registry = .load files config := by
    rcases loaded with loaded | ⟨earlier, rfl, reloaded⟩
    · exact loaded
    · exact reloaded
  subst same
  refine ⟨module?_load_eq_some_iff files config name, fun index held => ?_⟩
  obtain ⟨-, last, readable, made⟩ := (module?_load_eq_some_iff files config name index).mp held
  have listed : last ∈ config.modules := by
    obtain ⟨before, after, parts, -⟩ := readable.last
    simp [parts]
  have canonical : files.canonical? (config.specPath last) = some index.specPath := by
    obtain ⟨key, found⟩ := FileSystem.exists_canonical?_of_isFile readable.readable.1
    obtain ⟨spec, -, rfl⟩ := Option.map_eq_some_iff.mp made
    rw [ModuleIndex.specPath_ofSpecification, ModuleIndex.home, found, Option.getD_some]
  obtain ⟨first, found⟩ : ∃ first, config.module? name = some first := by
    rw [← Option.isSome_iff_exists, Config.module?, List.find?_isSome]
    exact ⟨last, listed, beq_iff_eq.mpr readable.named⟩
  refine ⟨first, last, found, readable, canonical, by rw [canonical], fun one => ?_⟩
  -- The path of an entry depends on its file alone.
  have path : config.specPath first = config.specPath last := by
    rw [Config.specPath, Config.specPath, one last listed readable.named]
  rw [path]
  exact ⟨made, canonical⟩

end Registry

namespace RepeatedName

open Registry

/-- Two specifications without paths. -/
def files : FileSystem :=
  ⟨[(⟨"specs", by decide⟩, .directory [(⟨"first.json", by decide⟩, .file [123, 125]),
    (⟨"second.json", by decide⟩, .file [123, 125])])], []⟩

/-- A name that is listed for both of them. -/
def config : Config :=
  ⟨⟨"/specs"⟩, "/api/v1", "models", [⟨"user", "first.json"⟩, ⟨"user", "second.json"⟩]⟩

/-- A name that is listed twice for one of them, with another name that is listed for nothing. -/
def steadyConfig : Config :=
  { config with modules := [⟨"user", "first.json"⟩, ⟨"news", "gone.json"⟩, ⟨"user", "first.json"⟩] }

def index (path : Path) : ModuleIndex := .ofSpecification files "user" path (.object []) "models"

theorem isDirectory_specs : files.isDirectory ⟨"/specs"⟩ = true :=
  FileSystem.isDirectory_pathOf (show (FileSystem.pathOf ["specs"]).text.utf8ByteSize < _ by decide)
    rfl

section

variable (name : String) (found : files.node? ["specs", name] = some (.file [123, 125]))
  (short : (FileSystem.pathOf ["specs", name]).text.utf8ByteSize < FileSystem.pathLimit)
  (format : DocumentFormat.ofPath (FileSystem.pathOf ["specs", name]) = .json)

include found

theorem canonical?_specification : files.canonical? (FileSystem.pathOf ["specs", name]) =
    some (FileSystem.pathOf ["specs", name]) :=
  files.canonical?_pathOf _ ⟨_, found, nofun⟩

include short format

theorem load?_specification :
    Document.load? files (FileSystem.pathOf ["specs", name]) = some (.object []) := by
  have decoded : Text.decodeUtf8 [123, 125] = .ok "\x7b\x7d" := eq_ok_of_toOption (by decide +kernel)
  have parsed : Document.parse "\x7b\x7d" .json = .ok (.object []) := by rfl
  simp only [Document.load?, Document.read, FileSystem.readText_pathOf short found decoded, format,
    parsed]
  rfl

/-- The index of a specification is empty. -/
theorem ofFile?_specification :
    ModuleIndex.ofFile? files "user" (FileSystem.pathOf ["specs", name]) "models" =
      some (index (FileSystem.pathOf ["specs", name])) := by
  rw [ModuleIndex.ofFile?, load?_specification name found short format]
  rfl

/-- A module of one of the specifications is readable. -/
theorem isReadable_specification {config : Config} {module : ModuleSpec}
    (path : config.specPath module = FileSystem.pathOf ["specs", name]) :
    config.IsReadable files module := by
  rw [Config.IsReadable, path, load?_specification name found short format,
    FileSystem.isFile_pathOf short found]
  exact ⟨rfl, rfl⟩

end

/-- A name that is listed twice for one file is served from it. -/
theorem reload_serves_repeated_file :
    steadyConfig.module? "user" = some ⟨"user", "first.json"⟩ ∧
      (Registry.reload files (.empty steadyConfig)).module? "user" =
          some (index ⟨"/specs/first.json"⟩) ∧
        files.canonical? (steadyConfig.specPath ⟨"user", "first.json"⟩) =
          some (index ⟨"/specs/first.json"⟩).specPath := by
  obtain ⟨served, named⟩ := loaded_from_last_readable files steadyConfig
    (Registry.reload files (.empty steadyConfig)) (.inr ⟨_, rfl, rfl⟩) "user"
  have first : steadyConfig.module? "user" = some ⟨"user", "first.json"⟩ := by rfl
  have path : steadyConfig.specPath ⟨"user", "first.json"⟩ =
      FileSystem.pathOf ["specs", "first.json"] := by
    decide
  have last : steadyConfig.IsLastReadable files "user" ⟨"user", "first.json"⟩ :=
    ⟨rfl, isReadable_specification "first.json" rfl (by decide) (by decide +kernel) path,
      [⟨"user", "first.json"⟩, ⟨"news", "gone.json"⟩], [], rfl, nofun⟩
  have held := (served (index ⟨"/specs/first.json"⟩)).mpr ⟨isDirectory_specs, _, last, by
    rw [path]
    exact ofFile?_specification "first.json" rfl (by decide) (by decide +kernel)⟩
  obtain ⟨_, _, found, _, _, _, one⟩ := named _ held
  cases first.symm.trans found
  exact ⟨first, held, (one (by decide)).2⟩

/-- The configuration names the first file, and the registry has the second. -/
theorem load_serves_second_file :
    config.module? "user" = some ⟨"user", "first.json"⟩ ∧
      files.canonical? (config.specPath ⟨"user", "first.json"⟩) = some ⟨"/specs/first.json"⟩ ∧
        (load files config).module? "user" = some (index ⟨"/specs/second.json"⟩) ∧
          (index ⟨"/specs/second.json"⟩).specPath = ⟨"/specs/second.json"⟩ := by
  have path : config.specPath ⟨"user", "second.json"⟩ =
      FileSystem.pathOf ["specs", "second.json"] := by
    decide
  have last : config.IsLastReadable files "user" ⟨"user", "second.json"⟩ :=
    ⟨rfl, isReadable_specification "second.json" rfl (by decide) (by decide +kernel) path,
      [⟨"user", "first.json"⟩], [], rfl, nofun⟩
  refine ⟨rfl, canonical?_specification "first.json" rfl, ?_, ?_⟩
  · refine (module?_load_eq_some_iff _ _ _ _).mpr ⟨isDirectory_specs, _, last, ?_⟩
    rw [path]
    exact ofFile?_specification "second.json" rfl (by decide) (by decide +kernel)
  · rw [index, ModuleIndex.specPath_ofSpecification, ModuleIndex.home]
    have canonical : files.canonical? ⟨"/specs/second.json"⟩ = some ⟨"/specs/second.json"⟩ :=
      canonical?_specification "second.json" rfl
    rw [canonical, Option.getD_some]

end RepeatedName

end ApiContract
