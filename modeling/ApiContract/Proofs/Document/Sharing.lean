import ApiContract.Proofs.Document.History

/-
This file proves that a cache keeps one document for each file. While the files stay as they are, all
paths that lead to a file share one entry and one answer, and the file is loaded once.
-/

namespace ApiContract

/-- A call of a program to its cache. -/
inductive CacheCall where
  | insert (path : Path) (document : Json)
  | get (path : Path)
  | preload (directory : Path)

namespace CacheCall

def toAction : CacheCall → CacheAction
  | .insert path document => .insert path document
  | .get path => .get path
  | .preload directory => .preload directory

/-- Whether a call inserts no document at a path that ends in a slash, or in a dot behind a slash. -/
def IsTidy : CacheCall → Prop
  | .insert path _ => path.IsTidy
  | _ => True

instance : (call : CacheCall) → Decidable call.IsTidy
  | .insert path _ => inferInstanceAs (Decidable path.IsTidy)
  | .get _ => .isTrue trivial
  | .preload _ => .isTrue trivial

end CacheCall

namespace DocumentCache

/-- The keys of a cache, in the order in which they were first set. -/
def keys (cache : DocumentCache) : List Path := cache.entries.map (·.1)

section Loading

variable {m : Type → Type} [Monad m] (load : Path → m (Option Json)) (files : FileSystem)

/-- A look-up that leaves the loading to a loader. -/
def getBy (path : Path) (cache : DocumentCache) : m (Option Json × DocumentCache) :=
  match cache.entryOf? path with
  | some entry => return (entry, cache)
  | none =>
      match files.canonical? path with
      | none => return (none, cache)
      | some key =>
          match cache.entryOf? key with
          | some entry => return (entry, cache)
          | none => do
              let entry ← load key
              return (entry, cache.set key entry)

/-- A directory that is read with a loader. -/
def preloadBy (directory : Path) (cache : DocumentCache) : m (Nat × DocumentCache) :=
  (specificationsIn files directory).foldlM
    (fun (count, cache) path => do
      let (document, cache) ← cache.getBy load files path
      return (if document.isSome then count + 1 else count, cache))
    (0, cache)

def performBy (cache : DocumentCache) : CacheCall → m DocumentCache
  | .insert path document => return cache.insert files path document
  | .get path => return (← cache.getBy load files path).2
  | .preload directory => return (← cache.preloadBy load files directory).2

/-- The calls to a cache one after the other, with a loader. -/
def afterBy (cache : DocumentCache) (calls : List CacheCall) : m DocumentCache :=
  calls.foldlM (performBy load files) cache

end Loading

section Faithful

variable {σ : Type} {load : Path → StateM σ (Option Json)} {files : FileSystem}
  (faithful : ∀ key state, ((load key).run state).1 = Document.load? files key)

include faithful

/-- A loader that gives what the files hold may keep a state of its own: a look-up is the same. -/
theorem run_getBy (cache : DocumentCache) (path : Path) (state : σ) :
    ((cache.getBy load files path).run state).1 = cache.get files path := by
  unfold getBy get
  cases cache.entryOf? path with
  | some entry => rfl
  | none =>
      cases files.canonical? path with
      | none => rfl
      | some key =>
          cases known : cache.entryOf? key with
          | some entry =>
              simp only [known]
              rfl
          | none =>
              have given := faithful key state
              simp only [known, ← given]
              rfl

/-- Preloading through a loader leaves the cache that preloading does. -/
theorem run_preloadBy (cache : DocumentCache) (directory : Path) (state : σ) :
    ((cache.preloadBy load files directory).run state).1 = cache.preload files directory := by
  unfold preloadBy preload
  generalize specificationsIn files directory = paths
  generalize 0 = count
  induction paths generalizing count cache state with
  | nil => rfl
  | cons path rest ih =>
      have step := run_getBy faithful cache path state
      rw [List.foldl_cons]
      dsimp only
      rw [← step]
      exact ih _ ((cache.getBy load files path).run state).2 _

/-- A call through a loader leaves the cache that the call does. -/
theorem run_performBy (cache : DocumentCache) (call : CacheCall) (state : σ) :
    ((cache.performBy load files call).run state).1 = cache.perform files call.toAction := by
  cases call with
  | insert path document => rfl
  | get path => exact congrArg Prod.snd (run_getBy faithful cache path state)
  | preload directory => exact congrArg Prod.snd (run_preloadBy faithful cache directory state)

/-- The calls with such a loader end in the cache of the program. -/
theorem run_afterBy (cache : DocumentCache) (calls : List CacheCall) (state : σ) :
    ((cache.afterBy load files calls).run state).1 =
      cache.after (calls.map fun call => (files, call.toAction)) := by
  induction calls generalizing cache state with
  | nil => rfl
  | cons call rest ih =>
      have step := run_performBy faithful cache call state
      rw [List.map_cons, after, List.foldl_cons, ← after, ← step]
      exact ih _ ((cache.performBy load files call).run state).2

end Faithful

/-- The loader that reads a file, and writes down that it did. -/
def loadLogged (files : FileSystem) (key : Path) : StateM (List Path) (Option Json) := do
  modify (· ++ [key])
  return Document.load? files key

/-- The cache after calls to an empty one, and the files that were loaded for them. -/
def session (files : FileSystem) (calls : List CacheCall) : DocumentCache × List Path :=
  (empty.afterBy (loadLogged files) files calls).run []

/-- A session leaves the cache that its calls leave. -/
theorem session_cache (files : FileSystem) (calls : List CacheCall) :
    (session files calls).1 = empty.after (calls.map fun call => (files, call.toAction)) :=
  run_afterBy (fun _ _ => rfl) empty calls []

/-- A look-up loads nothing and leaves the cache, or loads a canonical path that has no entry. -/
theorem getBy_loadLogged_cases (cache : DocumentCache) (files : FileSystem) (path : Path)
    (loads : List Path) :
    ((cache.getBy (loadLogged files) files path).run loads).2 = loads ∧
        (cache.get files path).2 = cache ∨
      ∃ key, files.canonical? path = some key ∧ cache.entryOf? key = none ∧
        ((cache.getBy (loadLogged files) files path).run loads).2 = loads ++ [key] ∧
          (cache.get files path).2 = cache.set key (Document.load? files key) := by
  unfold getBy get
  cases cache.entryOf? path with
  | some entry => exact .inl ⟨rfl, rfl⟩
  | none =>
      cases files.canonical? path with
      | none => exact .inl ⟨rfl, rfl⟩
      | some key =>
          cases known : cache.entryOf? key with
          | some entry =>
              left
              simp only [known, and_true]
              rfl
          | none =>
              right
              refine ⟨key, rfl, known, ?_⟩
              simp only [known, and_true]
              rfl

/-- Setting an entry adds its key behind the others, unless it has one. -/
theorem keys_setEntry (key : Path) (document : Option Json) (entries : List (Path × Option Json)) :
    (setEntry key document entries).map (·.1) =
      if (entries.find? fun entry => entry.1.same key).isSome then entries.map (·.1)
      else entries.map (·.1) ++ [key] := by
  induction entries with
  | nil => rfl
  | cons entry rest ih =>
      obtain ⟨other, held⟩ := entry
      rw [setEntry]
      cases same : other.same key with
      | true => simp [same]
      | false =>
          simp only [Bool.false_eq_true, ↓reduceIte, List.map_cons, ih, List.find?_cons, same]
          split <;> rfl

/-- Setting a key adds it, unless a key with the same components is there. -/
theorem keys_set (cache : DocumentCache) (key : Path) (document : Option Json) :
    (cache.set key document).keys =
      if (cache.entryOf? key).isSome then cache.keys else cache.keys ++ [key] := by
  rw [keys, set, keys_setEntry, entryOf?, Option.isSome_map, ← keys]

/-- An entry that is found has a key, under some spelling. -/
theorem exists_key_of_entryOf? {cache : DocumentCache} {path : Path} {entry : Option Json}
    (held : cache.entryOf? path = some entry) : ∃ key ∈ cache.keys, key.same path = true := by
  obtain ⟨found, first, _⟩ := Option.map_eq_some_iff.mp held
  have member := List.mem_of_find?_eq_some first
  have same := List.find?_some first
  exact ⟨found.1, List.mem_map.mpr ⟨found, member, rfl⟩, same⟩

/-- A path without an entry is no spelling of a key. -/
theorem not_same_of_entryOf?_eq_none {cache : DocumentCache} {path key : Path}
    (absent : cache.entryOf? path = none) (member : key ∈ cache.keys) : key.same path = false := by
  obtain ⟨entry, inside, rfl⟩ := List.mem_map.mp member
  have nothing := List.find?_eq_none.mp (Option.map_eq_none_iff.mp absent) entry inside
  simpa using nothing

/-- Whether a path can be a key: it is canonical, or it leads nowhere and has no other spelling that
leads somewhere. -/
def IsKey (files : FileSystem) (key : Path) : Prop :=
  files.canonical? key = some key ∨ files.canonical? key = none ∧ key.IsTidy

/-- Whether a cache has one entry for each file, and was filled with one load of each. -/
structure Shares (files : FileSystem) (cache : DocumentCache) (loads : List Path) : Prop where
  keys : ∀ key ∈ cache.keys, IsKey files key
  apart : cache.keys.Pairwise fun first second => first.same second = false
  loaded : ∀ key ∈ loads, files.canonical? key = some key ∧ (cache.entryOf? key).isSome
  once : loads.Nodup

/-- An empty cache shares nothing and has loaded nothing. -/
theorem shares_empty (files : FileSystem) : Shares files empty [] :=
  ⟨nofun, List.Pairwise.nil, nofun, List.nodup_nil⟩

/-- Among distinct canonical paths at most one leads to a file. -/
theorem countP_leads_le_one {files : FileSystem} {paths : List Path} {key : Path}
    (distinct : paths.Nodup)
    (leads : ∀ path ∈ paths, files.canonical? path = some key → path = key) :
    paths.countP (fun path => files.canonical? path == some key) ≤ 1 := by
  have counted : paths.countP (fun path => files.canonical? path == some key) ≤ paths.count key := by
    apply List.countP_mono_left
    intro path member found
    rw [leads path member (beq_iff_eq.mp found), beq_self_eq_true]
  have once := List.nodup_iff_count_le_one.mp distinct key
  omega

namespace Shares

variable {files : FileSystem} {cache : DocumentCache} {loads : List Path}

/-- A cache keeps one entry for each file when a key is set. -/
theorem set (shares : Shares files cache loads) {key : Path} (isKey : IsKey files key)
    (document : Option Json) : Shares files (cache.set key document) loads := by
  have loaded : ∀ path ∈ loads,
      files.canonical? path = some path ∧ ((cache.set key document).entryOf? path).isSome := by
    intro path member
    obtain ⟨canonical, known⟩ := shares.loaded path member
    refine ⟨canonical, ?_⟩
    rw [entryOf?_set]
    split
    · rfl
    · exact known
  cases known : cache.entryOf? key with
  | some entry =>
      have same : (cache.set key document).keys = cache.keys := by simp [keys_set, known]
      exact ⟨by simpa only [same] using shares.keys, by simpa only [same] using shares.apart, loaded,
        shares.once⟩
  | none =>
      have added : (cache.set key document).keys = cache.keys ++ [key] := by simp [keys_set, known]
      refine ⟨?_, ?_, loaded, shares.once⟩
      · intro path member
        rw [added, List.mem_append, List.mem_singleton] at member
        rcases member with earlier | rfl
        · exact shares.keys path earlier
        · exact isKey
      · rw [added, List.pairwise_append]
        refine ⟨shares.apart, List.pairwise_singleton _ _, ?_⟩
        intro path member last final
        rw [List.mem_singleton.mp final]
        exact not_same_of_entryOf?_eq_none known member

/-- A file is loaded when it has no entry, so it was not loaded before. -/
theorem load (shares : Shares files cache loads) {key : Path}
    (canonical : files.canonical? key = some key) (unknown : cache.entryOf? key = none)
    (document : Option Json) : Shares files (cache.set key document) (loads ++ [key]) := by
  have later := shares.set (.inl canonical) document
  have fresh : key ∉ loads := by
    intro member
    have known := (shares.loaded key member).2
    rw [unknown] at known
    cases known
  refine ⟨later.keys, later.apart, ?_, ?_⟩
  · intro path member
    rcases List.mem_append.mp member with earlier | final
    · exact later.loaded path earlier
    · rw [List.mem_singleton.mp final, entryOf?_set_self]
      exact ⟨canonical, rfl⟩
  · have extended := List.Nodup.concat fresh shares.once
    rwa [List.concat_eq_append] at extended

/-- Inserting at a tidy path keeps one document per file. -/
theorem insert (shares : Shares files cache loads) {path : Path} (tidy : path.IsTidy)
    (document : Json) : Shares files (cache.insert files path document) loads := by
  apply shares.set
  cases found : files.canonical? path with
  | none => exact .inr ⟨found, tidy⟩
  | some key => exact .inl (files.canonical?_idem path key found)

/-- Looking up a path keeps one document per file. -/
theorem get (shares : Shares files cache loads) (path : Path) :
    let run := (cache.getBy (loadLogged files) files path).run loads
    Shares files run.1.2 run.2 := by
  intro run
  have answer : run.1 = cache.get files path := run_getBy (fun _ _ => rfl) cache path loads
  rw [answer]
  rcases getBy_loadLogged_cases cache files path loads with ⟨loaded, kept⟩ | ⟨key, found⟩
  · rw [kept, loaded]
    exact shares
  · obtain ⟨canonical, unknown, loaded, filled⟩ := found
    rw [filled, loaded]
    exact shares.load (files.canonical?_idem path key canonical) unknown _

/-- Preloading a directory keeps one document per file. -/
theorem preload (shares : Shares files cache loads) (directory : Path) :
    let run := (cache.preloadBy (loadLogged files) files directory).run loads
    Shares files run.1.2 run.2 := by
  unfold preloadBy
  generalize specificationsIn files directory = paths
  generalize 0 = count
  induction paths generalizing count cache loads with
  | nil => exact shares
  | cons path rest ih => exact ih (shares.get path) _

/-- A call keeps one entry for each file. -/
theorem perform (shares : Shares files cache loads) (call : CacheCall) (tidy : call.IsTidy) :
    let run := (cache.performBy (loadLogged files) files call).run loads
    Shares files run.1 run.2 := by
  cases call with
  | insert path document => exact shares.insert tidy document
  | get path => exact shares.get path
  | preload directory => exact shares.preload directory

/-- Any number of calls keep one entry for each file. -/
theorem after (shares : Shares files cache loads) (calls : List CacheCall)
    (tidy : ∀ call ∈ calls, call.IsTidy) :
    let run := (cache.afterBy (loadLogged files) files calls).run loads
    Shares files run.1 run.2 := by
  induction calls generalizing cache loads with
  | nil => exact shares
  | cons call rest ih =>
      have first := tidy call List.mem_cons_self
      exact ih (shares.perform call first) fun other member => tidy other (.tail _ member)

/-- A key that has the components of a path to a file is the canonical path of the file. -/
theorem key_eq (shares : Shares files cache loads) {path key leads : Path}
    (member : key ∈ cache.keys) (same : key.same path = true)
    (found : files.canonical? path = some leads) : key = leads := by
  rcases shares.keys key member with canonical | ⟨nowhere, tidy⟩
  · exact files.canonical?_unique canonical found same
  · have somewhere := files.canonical?_of_same_of_tidy found same tidy
    rw [nowhere] at somewhere
    cases somewhere

/-- An entry that answers a path to a file is that of the canonical path. -/
theorem entry (shares : Shares files cache loads) {path key : Path}
    (found : files.canonical? path = some key) {entry : Option Json}
    (held : cache.entryOf? path = some entry) :
    key ∈ cache.keys ∧ cache.entryOf? key = some entry := by
  obtain ⟨other, member, same⟩ := exists_key_of_entryOf? held
  have equal := shares.key_eq member same found
  subst equal
  exact ⟨member, by rw [cache.entryOf?_congr same, held]⟩

/-- A path to a file is looked up as the canonical path is. -/
theorem get_canonical (shares : Shares files cache loads) {path key : Path}
    (found : files.canonical? path = some key) : cache.get files path = cache.get files key := by
  have canonical := files.canonical?_idem path key found
  rcases cache.get_cases files path with ⟨entry, held, given⟩ | ⟨absent, missing | leads⟩
  · rw [given, get_of_entryOf? (shares.entry found held).2]
  · rw [missing.1] at found
    cases found
  · obtain ⟨other, leads, ⟨entry, known, given⟩ | ⟨unknown, given⟩⟩ := leads
    · cases leads.symm.trans found
      rw [given, get_of_entryOf? known]
    · cases leads.symm.trans found
      simp only [DocumentCache.get, absent, unknown, found, canonical]

/-- At most one key leads to a file. -/
theorem count_keys (shares : Shares files cache loads) (key : Path) :
    cache.keys.countP (fun other => files.canonical? other == some key) ≤ 1 := by
  have distinct : cache.keys.Nodup := by
    apply shares.apart.imp
    rintro first second apart rfl
    rw [first.same_refl] at apart
    cases apart
  exact countP_leads_le_one distinct fun other member found =>
    shares.key_eq member other.same_refl found

/-- A file is loaded at most once. -/
theorem count_loads (shares : Shares files cache loads) (key : Path) :
    loads.countP (fun other => files.canonical? other == some key) ≤ 1 :=
  countP_leads_le_one shares.once fun other member found =>
    Option.some.inj ((shares.loaded other member).1.symm.trans found)

/-- A look-up of a path to a file leaves one entry, which answers every path to the file. -/
theorem after_get (shares : Shares files cache loads) {first second key : Path}
    (found : files.canonical? first = some key) (found' : files.canonical? second = some key) :
    let answer := (cache.get files first).1
    let later := (cache.get files first).2
    later.get files second = (answer, later) ∧ later.entryOf? key = some answer ∧
      later.keys.countP (fun other => files.canonical? other == some key) = 1 := by
  intro answer later
  have canonical := files.canonical?_idem first key found
  have same := shares.get_canonical found
  have held := cache.entryOf?_after_get files key canonical
  rw [← same] at held
  have run : ((cache.getBy (loadLogged files) files first).run loads).1 = cache.get files first :=
    run_getBy (fun _ _ => rfl) cache first loads
  have onward := shares.get first
  dsimp only at onward
  rw [run] at onward
  refine ⟨?_, held, ?_⟩
  · rw [onward.get_canonical found', get_of_entryOf? held]
  · have present : key ∈ later.keys := (onward.entry canonical held).1
    have least : 0 < later.keys.countP fun other => files.canonical? other == some key :=
      List.countP_pos_iff.mpr ⟨key, present, by simp [canonical]⟩
    have most : later.keys.countP (fun other => files.canonical? other == some key) ≤ 1 :=
      onward.count_keys key
    omega

end Shares

/-- However paths are spelled, a cache keeps at most one document for each file and loads the file
at most once. -/
theorem one_document_per_file (files : FileSystem) (calls : List CacheCall)
    (tidy : ∀ call ∈ calls, call.IsTidy) :
    let cache := empty.after (calls.map fun call => (files, call.toAction))
    let loads := (session files calls).2
    (session files calls).1 = cache ∧
      -- A key is a canonical path or leads nowhere, and only canonical paths are loaded.
      (∀ key ∈ cache.keys,
        (∃ path, files.canonical? path = some key) ∨ files.canonical? key = none) ∧
      (∀ key ∈ loads, files.canonical? key = some key) ∧
      -- Two paths to one file share its answer, its entry and its only load.
      ∀ first second key, files.canonical? first = some key → files.canonical? second = some key →
        let answer := (cache.get files first).1
        let later := (cache.get files first).2
        cache.get files second = (answer, later) ∧
          later.get files second = (answer, later) ∧ later.entryOf? key = some answer ∧
            cache.keys.countP (fun other => files.canonical? other == some key) ≤ 1 ∧
              later.keys.countP (fun other => files.canonical? other == some key) = 1 ∧
                loads.countP (fun other => files.canonical? other == some key) ≤ 1 := by
  have shares : Shares files (session files calls).1 (session files calls).2 :=
    (shares_empty files).after calls tidy
  rw [session_cache] at shares
  refine ⟨session_cache files calls, ?_, fun key member => (shares.loaded key member).1, ?_⟩
  · intro key member
    rcases shares.keys key member with canonical | nowhere
    · exact .inl ⟨key, canonical⟩
    · exact .inr nowhere.1
  · intro first second key found found'
    have same := (shares.get_canonical found').trans (shares.get_canonical found).symm
    obtain ⟨again, held, one⟩ := shares.after_get found found'
    exact ⟨same, again, held, shares.count_keys key, one, shares.count_loads key⟩

end DocumentCache

namespace LinkedFile

open DocumentCache

/-- A file in a directory, and a link to it. -/
def files : FileSystem :=
  ⟨[(⟨"models", by decide⟩, .directory [(⟨"cat.json", by decide⟩, .file [123, 125])]),
    (⟨"link.json", by decide⟩, .link "models/cat.json")], []⟩

/-- A document is inserted where nothing is, the file is found through the link and in its directory,
and another document is put in its place. -/
def calls : List CacheCall :=
  [.insert ⟨"/gone.json"⟩ (.object []), .get ⟨"link.json"⟩, .preload ⟨"models"⟩,
    .insert ⟨"models/../link.json"⟩ (.object [])]

theorem stands : files.Stands ["models", "cat.json"] := ⟨.file [123, 125], rfl, by simp⟩

theorem walk_names_of_file (links : Nat) :
    files.walk links [] ["models", "cat.json"] = .ok ["models", "cat.json"] := by
  have along := files.walk_names links [] ["models", "cat.json"] [] stands
  exact along.trans (files.walk_nil links _)

theorem canonical?_link : files.canonical? ⟨"link.json"⟩ = some ⟨"/models/cat.json"⟩ := by
  have located : files.locate ⟨"link.json"⟩ = .ok ["models", "cat.json"] := by
    change files.walk FileSystem.greatestLinkCount [] ["link.json"] = .ok ["models", "cat.json"]
    rw [files.walk_cons_ok _ 39 [] [] "link.json" ["models", "cat.json"] [] rfl, List.append_nil,
      walk_names_of_file]
  rw [FileSystem.canonical?, located]
  rfl

theorem canonical?_dotted :
    files.canonical? ⟨"./models/../models/cat.json"⟩ = some ⟨"/models/cat.json"⟩ := by
  have located : files.locate ⟨"./models/../models/cat.json"⟩ = .ok ["models", "cat.json"] := by
    change files.walk FileSystem.greatestLinkCount [] [".", "models", "..", "models", "cat.json"] =
      .ok ["models", "cat.json"]
    have directory := files.stands_of_append ["models"] ["cat.json"] stands
    rw [files.walk_blank _ [] "." _ rfl _ files.node?_nil, files.walk_name _ [] "models" _ directory,
      List.nil_append, files.walk_cons_ok _ _ ["models"] [] ".." [] _ rfl, List.nil_append,
      walk_names_of_file]
  rw [FileSystem.canonical?, located]
  rfl

/-- The link and the file have one document, which is loaded once. -/
theorem link_shares_document :
    (∀ call ∈ calls, call.IsTidy) ∧
      let cache := empty.after (calls.map fun call => (files, call.toAction))
      let loads := (session files calls).2
      (cache.get files ⟨"./models/../models/cat.json"⟩ = cache.get files ⟨"link.json"⟩) ∧
        loads.countP (fun other => files.canonical? other == some ⟨"/models/cat.json"⟩) ≤ 1 := by
  have tidy : ∀ call ∈ calls, call.IsTidy := by decide
  obtain ⟨_, _, _, shared⟩ := one_document_per_file files calls tidy
  obtain ⟨same, _, _, _, _, once⟩ := shared ⟨"link.json"⟩ ⟨"./models/../models/cat.json"⟩
    ⟨"/models/cat.json"⟩ canonical?_link canonical?_dotted
  exact ⟨tidy, same, once⟩

end LinkedFile

end ApiContract
