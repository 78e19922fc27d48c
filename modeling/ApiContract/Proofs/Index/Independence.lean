import ApiContract.Proofs.File.Overwriting
import ApiContract.Proofs.Index.Completeness

/-
This file proves that an index follows from its specification and the other files alone. What was read
from a models directory beforehand, and what the file of the specification holds on disk, changes
nothing.
-/

namespace ApiContract

namespace ModuleIndex

open Library Resolver

variable {files files' : FileSystem} {specPath : Path} {spec : Json} {place : List String}

/-- The path of a specification has the specification for its document, whatever else is cached. -/
theorem get_home {cache : DocumentCache} (explained : (library files specPath spec).Explains cache) :
    (cache.get files (home files specPath)).1 = some spec := by
  have given := explained.get (home files specPath) (settles_home files specPath spec)
  rw [document?_of_inserted _ _ _ (inserted?_library files specPath spec)] at given
  exact given

/-- Fresh resolvers over two file systems are in step, if the specification has one path in both. -/
theorem inStep_fresh (homes : home files specPath = home files' specPath) :
    InStep (library files specPath spec) (library files' specPath spec)
      (some (home files specPath)) (fresh files specPath spec).cache
      (fresh files' specPath spec).cache := by
  refine ⟨explains_fresh files specPath spec, explains_fresh files' specPath spec, ?_⟩
  rintro path ⟨⟩
  have first := get_home (explains_fresh files specPath spec)
  have second := get_home (explains_fresh files' specPath spec)
  rw [← homes] at second
  exact first.trans second.symm

section

variable (alike : (library files specPath spec).Alike (library files' specPath spec))
  (homes : home files specPath = home files' specPath)

include alike homes

/-- File systems that agree where the walk leads give a body the same schema. -/
theorem schemaOf?_congr (body : Json) :
    schemaOf? files specPath spec body = schemaOf? files' specPath spec body := by
  unfold schemaOf?
  rw [← homes]
  cases body.reference? with
  | none => rfl
  | some text =>
      have same := resolve_inStep alike (inStep_fresh homes) text (home files specPath) none
        fun _ => .inl rfl
      exact congrArg (Option.bind · _) same

/-- A body has one schema and one count over file systems that the specification cannot tell apart. -/
theorem body_congr (body : Json) :
    freshContent? files specPath spec body = freshContent? files' specPath spec body ∧
      freshCount files specPath spec body = freshCount files' specPath spec body := by
  unfold freshContent? freshCount
  rw [← schemaOf?_congr alike homes]
  cases found : schemaOf? files specPath spec body with
  | none => simp only [Option.map_none, Option.elim_none, and_self]
  | some read =>
      obtain ⟨schema, file⟩ := read
      obtain ⟨same, added, grown, grown'⟩ := resolveTree_inStep alike rfl rfl (inStep_fresh homes)
        schema file (visits_schemaOf? body schema file found)
      rw [Option.map_some, Option.map_some, Option.elim_some, Option.elim_some]
      exact ⟨congrArg some same, grown.trans grown'.symm⟩

/-- File systems that agree where the walk leads give the same index. -/
theorem ofSpecification_congr (name modelsDirectory modelsDirectory' : String) :
    ofSpecification files name specPath spec modelsDirectory =
      ofSpecification files' name specPath spec modelsDirectory' := by
  have stores : stored files specPath spec = stored files' specPath spec := by
    funext declarations
    simp only [stored, (body_congr alike homes _).1]
  rw [ofSpecification_eq, ofSpecification_eq, homes, stores]
  simp only [(body_congr alike homes _).2]

end

section

variable (located : files.locate specPath = .ok place)
  (differs : FileSystem.DiffersOnlyAt place files files')

include differs

/-- File systems of one shape have the same home for a specification. -/
theorem home_congr : home files specPath = home files' specPath := by
  rw [home, home, differs.canonical?]

/-- File systems of one shape insert a specification at the same paths. -/
theorem inserted?_congr_library (path : Path) :
    (library files specPath spec).inserted? path = (library files' specPath spec).inserted? path := by
  simp only [library, inserted?, home_congr differs]

include located

/-- A canonical path with no inserted document lies beside the specification, and reads the same. -/
theorem load?_congr_library {path key : Path} (found : files.canonical? path = some key)
    (absent : (library files specPath spec).inserted? key = none) :
    Document.load? files key = Document.load? files' key := by
  apply differs.load?
  intro there
  have canonical := files.canonical?_idem path key found
  have own : home files specPath = key := by
    rw [FileSystem.canonical?, there] at canonical
    rw [home, FileSystem.canonical?, located, Option.getD_some]
    exact Option.some.inj canonical
  rw [← own, inserted?_library] at absent
  cases absent

/-- A specification does not tell file systems apart that differ in its own file only. -/
theorem library_alike :
    (library files specPath spec).Alike (library files' specPath spec) := by
  refine ⟨differs.canonical?, fun path => ?_⟩
  have same : (library files' specPath spec).files.canonical? path =
      (library files specPath spec).files.canonical? path := (differs.canonical? path).symm
  unfold document?
  rw [← inserted?_congr_library differs, same]
  cases (library files specPath spec).inserted? path with
  | some document => rfl
  | none =>
      dsimp only
      cases found : (library files specPath spec).files.canonical? path with
      | none => rfl
      | some key =>
          dsimp only
          rw [← inserted?_congr_library differs]
          cases absent : (library files specPath spec).inserted? key with
          | some document => rfl
          | none => exact load?_congr_library located differs found absent

end

/-- Neither the models directory nor the bytes of its own file change the index of a specification
that is supplied as a tree. -/
theorem ofSpecification_ignores_models_and_own_file (files : FileSystem) (name : String)
    (specPath : Path) (spec : Json) :
    (∀ modelsDirectory modelsDirectory' : String,
        ofSpecification files name specPath spec modelsDirectory =
          ofSpecification files name specPath spec modelsDirectory') ∧
      (∀ (place : List String) (files' : FileSystem) (modelsDirectory modelsDirectory' : String),
        files.locate specPath = .ok place → FileSystem.DiffersOnlyAt place files files' →
          ofSpecification files name specPath spec modelsDirectory =
            ofSpecification files' name specPath spec modelsDirectory') ∧
      ∀ (modelsDirectory : String) (uses : List Use),
        let cache := uses.foldl (use files)
          (startCache files (home files specPath) spec modelsDirectory)
        (∀ pointer : String,
          (enter files (.inDocument pointer) ⟨home files specPath, none⟩ cache).1 =
            some (home files specPath, spec)) ∧
          ∀ (context : Context) (relative pointer : String),
            files.canonical? ((context.file.parent?.getD ⟨"."⟩).join ⟨relative⟩) =
                some (home files specPath) →
              (enter files (.inFile relative pointer) context cache).1 =
                some (home files specPath, spec) := by
  refine ⟨?_, ?_, ?_⟩
  · exact ofSpecification_congr (.refl _) rfl name
  · intro place files' modelsDirectory modelsDirectory' located differs
    exact ofSpecification_congr (library_alike located differs) (home_congr differs) name
      modelsDirectory modelsDirectory'
  · intro modelsDirectory uses cache
    have explained : (library files specPath spec).Explains cache :=
      explains_uses (explains_startCache files specPath spec modelsDirectory) uses
    have given := get_home explained
    refine ⟨fun pointer => ?_, fun context relative pointer leads => ?_⟩
    · simp only [enter, given, Option.map_some]
    · simp only [enter, leads, given, Option.map_some]

end ModuleIndex

namespace OverwrittenModule

open ModuleIndex Resolver

def files : FileSystem := ⟨[(⟨"pets.yaml", by decide⟩, .file [])], []⟩

def specPath : Path := ⟨"/pets.yaml"⟩

/-- The file system after the specification was written over with one brace. -/
def overwritten : FileSystem := files.write specPath (.file [123])

theorem stands : files.Stands ["pets.yaml"] := ⟨.file [], by rfl, nofun⟩

theorem locate_specPath : files.locate specPath = .ok ["pets.yaml"] :=
  files.locate_pathOf ["pets.yaml"] stands

/-- Another file comes to the specification by a spelling with a dot. -/
theorem canonical?_beside :
    files.canonical? (((⟨"/other.yaml"⟩ : Path).parent?.getD ⟨"."⟩).join ⟨"./pets.yaml"⟩) =
      some (home files specPath) := by
  have spelled : ((⟨"/other.yaml"⟩ : Path).parent?.getD ⟨"."⟩).join ⟨"./pets.yaml"⟩ =
      ⟨"/./pets.yaml"⟩ := by
    rfl
  have located : files.locate ⟨"/./pets.yaml"⟩ = .ok ["pets.yaml"] := by
    change files.walk FileSystem.greatestLinkCount [] ["", ".", "pets.yaml"] = .ok ["pets.yaml"]
    rw [files.walk_blank _ [] "" _ rfl _ files.node?_nil,
      files.walk_blank _ [] "." _ rfl _ files.node?_nil, files.walk_name _ [] _ _ stands,
      FileSystem.walk_nil]
    rfl
  rw [spelled, home, FileSystem.canonical?, located, FileSystem.canonical?, locate_specPath,
    Option.getD_some]

/-- An index does not change when its specification is written over, or another directory is read
before. A reference from another file is read in the tree that was supplied. -/
theorem index_survives_overwriting :
    FileSystem.DiffersOnlyAt ["pets.yaml"] files overwritten ∧
      ofSpecification files "pets" specPath PetModule.spec "models" =
          ofSpecification overwritten "pets" specPath PetModule.spec "." ∧
        (enter files (.inFile "./pets.yaml" "/paths") ⟨⟨"/other.yaml"⟩, none⟩
            (startCache files (home files specPath) PetModule.spec "models")).1 =
          some (home files specPath, PetModule.spec) := by
  have differs : FileSystem.DiffersOnlyAt ["pets.yaml"] files overwritten :=
    FileSystem.differsOnlyAt_write specPath [] [123] locate_specPath (by rfl)
  obtain ⟨-, same, back⟩ :=
    ofSpecification_ignores_models_and_own_file files "pets" specPath PetModule.spec
  refine ⟨differs, same ["pets.yaml"] overwritten "models" "." locate_specPath differs, ?_⟩
  exact (back "models" []).2 ⟨⟨"/other.yaml"⟩, none⟩ "./pets.yaml" "/paths" canonical?_beside

end OverwrittenModule

end ApiContract
