import ApiContract.Config
import ApiContract.Proofs.Traversal

/-
This file proves what the environment does to a configuration. The directory and the prefix are
overridden before the module list is read, so they stay overridden where the list is rejected.
-/

namespace ApiContract

/-- The first value that is given, or else the last resort. -/
def firstGiven {α : Type} (layers : List (Option α)) (last : α) : α :=
  layers.foldr Option.getD last

/-- A layer leaves the last value in force if it gives none or the same. -/
theorem firstGiven_eq_last_iff {α : Type} (layer : Option α) (last : α) :
    firstGiven [layer] last = last ↔ ∀ value, layer = some value → last = value := by
  cases layer with
  | none => exact ⟨fun _ => nofun, fun _ => rfl⟩
  | some value => exact ⟨fun same _ given => Option.some.inj given ▸ same.symm,
      fun each => (each value rfl).symm⟩

/-- A module list can be read if and only if each of its entries is a module, and gives these. -/
theorem parseModuleList_eq_ok_iff (list source : String) (modules : List ModuleSpec) :
    parseModuleList list source = .ok modules ↔
      (moduleEntries list).map ModuleSpec.ofEntry? = modules.map some := by
  rw [parseModuleList, mapM_eq_ok_iff, ← List.forall₂_eq_eq_eq, List.forall₂_map_left_iff,
    List.forall₂_map_right_iff]
  refine iff_of_eq (congrArg (List.Forall₂ · _ _) (funext₂ fun entry module => propext ?_))
  cases ModuleSpec.ofEntry? entry with
  | none => exact ⟨nofun, nofun⟩
  | some given => exact ⟨fun same => congrArg some (Except.ok.inj same),
      fun same => congrArg Except.ok (Option.some.inj same)⟩

/-- A list has a fault if nothing is read from one of its entries. -/
theorem exists_parseModuleList_error_iff (list source : String) :
    (∃ fault, parseModuleList list source = .error fault) ↔
      ∃ entry ∈ moduleEntries list, ModuleSpec.ofEntry? entry = none := by
  rw [exists_error_iff, parseModuleList, exists_mapM_iff]
  push Not
  refine exists_congr fun entry => and_congr_right fun _ => ?_
  cases ModuleSpec.ofEntry? entry with
  | none => exact ⟨fun _ => rfl, fun _ => nofun⟩
  | some module => exact ⟨fun none => absurd rfl (none module), nofun⟩

namespace Environment

/-- The directory that counts; an empty one does not. -/
def directory? (environment : Environment) : Option Path :=
  (environment.specDirectory.filter fun text => text ≠ "").map Path.mk

/-- The module list that counts; a blank one does not. -/
def moduleList? (environment : Environment) : Option String :=
  environment.modules.filter fun list => Unicode.trim list ≠ ""

/-- The environment gives a directory if its variable is not empty. -/
theorem directory?_eq_some_iff (environment : Environment) (path : Path) :
    environment.directory? = some path ↔
      environment.specDirectory = some path.text ∧ path.text ≠ "" := by
  rw [directory?, Option.map_eq_some_iff]
  constructor
  · rintro ⟨text, counted, rfl⟩
    exact ⟨(Option.filter_eq_some_iff.mp counted).1,
      of_decide_eq_true (Option.filter_eq_some_iff.mp counted).2⟩
  · rintro ⟨given, present⟩
    exact ⟨path.text, Option.filter_eq_some_iff.mpr ⟨given, decide_eq_true present⟩, rfl⟩

end Environment

namespace Config

/-- The configuration with the directory and the prefix of the environment. -/
def redirected (config : Config) (environment : Environment) : Config :=
  { config with
    specDirectory := firstGiven [environment.directory?] config.specDirectory
    apiPrefix := firstGiven [environment.apiPrefix] config.apiPrefix }

/-- The environment changes neither the directory nor the prefix exactly if it says nothing new of
them. -/
theorem redirected_eq_self_iff (config : Config) (environment : Environment) :
    config.redirected environment = config ↔
      (∀ text, environment.specDirectory = some text → text ≠ "" →
        config.specDirectory = ⟨text⟩) ∧
      ∀ text, environment.apiPrefix = some text → config.apiPrefix = text := by
  have directory : firstGiven [environment.directory?] config.specDirectory = config.specDirectory ↔
      ∀ text, environment.specDirectory = some text → text ≠ "" →
        config.specDirectory = ⟨text⟩ := by
    rw [firstGiven_eq_last_iff]
    constructor
    · intro each text given present
      exact each ⟨text⟩ ((environment.directory?_eq_some_iff ⟨text⟩).mpr ⟨given, present⟩)
    · intro each path counted
      obtain ⟨given, present⟩ := (environment.directory?_eq_some_iff path).mp counted
      exact each path.text given present
  rw [← directory, ← firstGiven_eq_last_iff]
  constructor
  · intro same
    exact ⟨congrArg specDirectory same, congrArg apiPrefix same⟩
  · rintro ⟨directory, text⟩
    rw [redirected, directory, text]

/-- The environment gives the directory and the prefix in any case, and the modules if a list of
them counts and can be read. -/
theorem applyEnvironment_cases (config : Config) (environment : Environment) :
    environment.moduleList? = none ∧
        config.applyEnvironment environment = (config.redirected environment, none) ∨
      (∃ list modules, environment.moduleList? = some list ∧
        parseModuleList list Environment.modulesName = .ok modules ∧
        config.applyEnvironment environment =
          ({ config.redirected environment with modules := modules }, none)) ∨
      ∃ list fault, environment.moduleList? = some list ∧
        parseModuleList list Environment.modulesName = .error fault ∧
        config.applyEnvironment environment = (config.redirected environment, some fault) := by
  have counts (text : String) : (!text.isEmpty) = decide (text ≠ "") := by
    rw [Bool.eq_iff_iff, decide_eq_true_iff, Bool.not_eq_true', Bool.eq_false_iff]
    exact not_congr String.isEmpty_iff
  have redirects : config.redirected environment =
      { config with
        specDirectory :=
          ((environment.specDirectory.filter fun text => !text.isEmpty).map Path.mk).getD
            config.specDirectory
        apiPrefix := environment.apiPrefix.getD config.apiPrefix } := by
    simp only [redirected, firstGiven, Environment.directory?, counts]
    rfl
  rw [applyEnvironment, Environment.moduleList?, redirects]
  simp only [counts]
  split
  · next none => exact .inl ⟨none, rfl⟩
  · next list some =>
      split
      · next modules read => exact .inr (.inl ⟨list, modules, some, read, rfl⟩)
      · next fault failed => exact .inr (.inr ⟨list, fault, some, failed, rfl⟩)

/-- A rejected module list leaves the directory and the prefix overridden, and nothing else. The
configuration is then as it was exactly if neither variable says anything new. -/
theorem applyEnvironment_of_rejected (config : Config) (lookup : String → Option String)
    (fault : ModuleEntryFault)
    (rejected : (config.applyEnvironment (.ofLookup lookup)).2 = some fault) :
    let after := (config.applyEnvironment (.ofLookup lookup)).1
    after.modules = config.modules ∧ after.modelsDirectory = config.modelsDirectory ∧
      after.specDirectory =
        firstGiven [((lookup "APICHECK_SPEC_DIR").filter fun text => text ≠ "").map Path.mk]
          config.specDirectory ∧
      after.apiPrefix = firstGiven [lookup "APICHECK_API_PREFIX"] config.apiPrefix ∧
      (after = config ↔
        (∀ text, lookup "APICHECK_SPEC_DIR" = some text → text ≠ "" →
          config.specDirectory = ⟨text⟩) ∧
        ∀ text, lookup "APICHECK_API_PREFIX" = some text → config.apiPrefix = text) := by
  have after : (config.applyEnvironment (.ofLookup lookup)).1 =
      config.redirected (.ofLookup lookup) := by
    rcases config.applyEnvironment_cases (.ofLookup lookup) with
      ⟨_, applied⟩ | ⟨_, _, _, _, applied⟩ | ⟨_, _, _, _, applied⟩
    · rw [applied] at rejected
      cases rejected
    · rw [applied] at rejected
      cases rejected
    · rw [applied]
  rw [after]
  exact ⟨rfl, rfl, rfl, rfl, config.redirected_eq_self_iff (.ofLookup lookup)⟩

/-- Two variables, the second with an entry that is no module. -/
def malformedLookup (name : String) : Option String :=
  [("APICHECK_SPEC_DIR", "/s"), ("APICHECK_MODULES", "news")].lookup name

theorem applyEnvironment_of_rejected_news :
    (default.applyEnvironment (.ofLookup malformedLookup)).2 =
        some ⟨"news", "APICHECK_MODULES"⟩ ∧
      (default.applyEnvironment (.ofLookup malformedLookup)).1.modules = default.modules ∧
      (default.applyEnvironment (.ofLookup malformedLookup)).1.modelsDirectory =
        default.modelsDirectory ∧
      (default.applyEnvironment (.ofLookup malformedLookup)).1.specDirectory = ⟨"/s"⟩ ∧
      (default.applyEnvironment (.ofLookup malformedLookup)).1.apiPrefix = default.apiPrefix := by
  have rejected : (default.applyEnvironment (.ofLookup malformedLookup)).2 =
      some ⟨"news", "APICHECK_MODULES"⟩ := by decide
  obtain ⟨modules, models, directory, text, _⟩ :=
    applyEnvironment_of_rejected default malformedLookup _ rejected
  exact ⟨rejected, modules, models, directory, text⟩

/-- A rejected module list can leave another configuration than there was. -/
theorem not_unchanged_of_rejected :
    ¬∀ (config : Config) (lookup : String → Option String) (fault : ModuleEntryFault),
      (config.applyEnvironment (.ofLookup lookup)).2 = some fault →
        (config.applyEnvironment (.ofLookup lookup)).1 = config := by
  intro unchanged
  have same := unchanged default malformedLookup ⟨"news", "APICHECK_MODULES"⟩ (by decide)
  have different : (default.applyEnvironment (.ofLookup malformedLookup)).1 ≠ default := by decide
  exact different same

end Config

end ApiContract
