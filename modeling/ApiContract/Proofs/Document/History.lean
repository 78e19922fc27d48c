import ApiContract.Proofs.Resolver.Termination

/-
This file proves that what a cache holds under a key stays, whatever is done with the cache and whatever
becomes of the files meanwhile: only an insertion at the key sets its entry anew.
-/

namespace ApiContract

/-- What is done with a cache: a document is inserted or looked up, a directory is read, or a
resolver serves a call. -/
inductive CacheAction where
  | insert (path : Path) (document : Json)
  | get (path : Path)
  | preload (directory : Path)
  | serve (unresolved : Nat) (call : Resolver.Call)

/-- What is done with a cache in the course of time, each time with the files that are there then.
-/
abbrev CacheHistory := List (FileSystem × CacheAction)

namespace DocumentCache

def perform (files : FileSystem) (cache : DocumentCache) : CacheAction → DocumentCache
  | .insert path document => cache.insert files path document
  | .get path => (cache.get files path).2
  | .preload directory => (cache.preload files directory).2
  | .serve unresolved call => (Resolver.serveCall files ⟨cache, [], unresolved⟩ call).cache

/-- The cache at the end of a history. -/
def after (cache : DocumentCache) (history : CacheHistory) : DocumentCache :=
  history.foldl (fun cache step => cache.perform step.1 step.2) cache

/-- The document that an action inserts at a key. -/
def insertedAt? (key : Path) : FileSystem × CacheAction → Option Json
  | (files, .insert path document) =>
      if ((files.canonical? path).getD path).same key then some document else none
  | _ => none

/-- The last document that a history inserts at a key. -/
def lastInserted? (key : Path) (history : CacheHistory) : Option Json :=
  (history.filterMap (insertedAt? key)).getLast?

/-- A key that has an entry is answered by it, and nothing is read. -/
theorem get_of_entryOf? {cache : DocumentCache} {path : Path} {entry : Option Json}
    (held : cache.entryOf? path = some entry) (files : FileSystem) :
    cache.get files path = (entry, cache) := by
  rw [get, held]

/-- A path that has no entry and names nothing leaves the cache as it is. -/
theorem get_of_missing {cache : DocumentCache} {files : FileSystem} {path : Path}
    (absent : cache.entryOf? path = none) (missing : files.canonical? path = none) :
    cache.get files path = (none, cache) := by
  rw [get, absent, missing]

/-- A look-up keeps every entry. -/
theorem entryOf?_get {cache : DocumentCache} {key : Path} {entry : Option Json}
    (held : cache.entryOf? key = some entry) (files : FileSystem) (path : Path) :
    (cache.get files path).2.entryOf? key = some entry := by
  rcases cache.get_cases files path with ⟨_, _, given⟩ | ⟨_, missing | found⟩
  · rw [given, held]
  · rw [missing.2, held]
  · obtain ⟨other, _, ⟨_, _, given⟩ | ⟨unknown, given⟩⟩ := found
    · rw [given, held]
    · have apart : ¬other.same key = true := by
        intro same
        rw [cache.entryOf?_congr same, held] at unknown
        cases unknown
      rw [given, entryOf?_set, if_neg apart, held]

/-- An action keeps every entry, but for one that it inserts itself. -/
theorem entryOf?_perform {cache : DocumentCache} {key : Path} {entry : Option Json}
    (held : cache.entryOf? key = some entry) (files : FileSystem) (action : CacheAction) :
    (cache.perform files action).entryOf? key =
      some ((insertedAt? key (files, action)).elim entry some) := by
  have gets (path : Path) (cache : DocumentCache) (kept : cache.entryOf? key = some entry) :
      (cache.get files path).2.entryOf? key = some entry := entryOf?_get kept files path
  cases action with
  | insert path document =>
      rw [perform, insert, entryOf?_set, insertedAt?]
      split
      · rfl
      · exact held
  | get path => exact gets path cache held
  | preload directory => exact preload_keeps gets directory held
  | serve unresolved call => exact Resolver.serve_cache gets [call] ⟨cache, [], unresolved⟩ rfl held

/-- A history keeps every entry, but for the last one that it inserts at the key. -/
theorem entryOf?_after {cache : DocumentCache} {key : Path} {entry : Option Json}
    (held : cache.entryOf? key = some entry) (history : CacheHistory) :
    (cache.after history).entryOf? key = some ((lastInserted? key history).elim entry some) := by
  induction history generalizing cache entry with
  | nil => exact held
  | cons step rest ih =>
      have onward := ih (entryOf?_perform held step.1 step.2)
      rw [after, List.foldl_cons, ← after, onward, lastInserted?, lastInserted?,
        List.filterMap_cons]
      cases insertedAt? key step with
      | none => rfl
      | some document =>
          rw [List.getLast?_cons]
          cases (rest.filterMap (insertedAt? key)).getLast? <;> rfl

/-- A key that has an entry keeps it, and is answered by it, until a document is inserted at that
very key, whatever becomes of the files. -/
theorem entries_are_written_once (cache : DocumentCache) (history : CacheHistory) :
    (∀ key entry, cache.entryOf? key = some entry →
      let kept := (lastInserted? key history).elim entry some
      (cache.after history).entryOf? key = some kept ∧
        ∀ (files : FileSystem) (path : Path), key.same path = true →
          (cache.after history).get files path = (kept, cache.after history)) ∧
      ∀ (files : FileSystem) (path : Path), (cache.after history).entryOf? path = none →
        files.canonical? path = none →
          (cache.after history).get files path = (none, cache.after history) := by
  refine ⟨fun key entry held => ?_, fun files path => get_of_missing⟩
  have kept := entryOf?_after held history
  refine ⟨kept, fun files path same => get_of_entryOf? ?_ files⟩
  rw [← entryOf?_congr _ same, kept]

end DocumentCache

namespace RepairedFile

open DocumentCache

def repaired : FileSystem := ⟨[(⟨"pet.json", by decide⟩, .file [123, 125])], []⟩

def removed : FileSystem := ⟨[], []⟩

/-- A cache that remembers that a file could not be read. -/
def cache : DocumentCache := ⟨[(⟨"/pet.json"⟩, none)]⟩

/-- The file is repaired and looked up, removed while its directory is read, and made again for a
resolver. -/
def history : CacheHistory :=
  [(repaired, .get ⟨"/./pet.json"⟩), (removed, .preload ⟨"/"⟩),
    (repaired, .serve 1 (.resolve "pet.json#/b" ⟨"/c.json"⟩ none))]

theorem canonical?_repaired : repaired.canonical? ⟨"/pet.json"⟩ = some ⟨"/pet.json"⟩ := by
  have stands : repaired.Stands ["pet.json"] := ⟨_, rfl, nofun⟩
  exact repaired.canonical?_pathOf ["pet.json"] stands

theorem canonical?_removed : removed.canonical? ⟨"/pet.json"⟩ = none := by
  have located : removed.locate ⟨"/pet.json"⟩ = .error .notFound := by
    change removed.walk FileSystem.greatestLinkCount [] ["", "pet.json"] = .error .notFound
    rw [removed.walk_blank _ [] "" _ rfl _ removed.node?_nil, removed.walk_cons_error _ [] _ _ .notFound rfl]
  rw [FileSystem.canonical?, located]

/-- A remembered failure outlives the repair of its file, until a document is inserted. -/
theorem failure_outlives_repair :
    cache.entryOf? ⟨"/pet.json"⟩ = some none ∧
      (cache.after history).get repaired ⟨"//pet.json"⟩ = (none, cache.after history) ∧
        (cache.after (history ++ [(repaired, .insert ⟨"/pet.json"⟩ (.object []))])).entryOf?
            ⟨"/pet.json"⟩ = some (some (.object [])) ∧
          removed.canonical? ⟨"/pet.json"⟩ = none ∧
            DocumentCache.empty.get removed ⟨"/pet.json"⟩ = (none, DocumentCache.empty) := by
  have held : cache.entryOf? ⟨"/pet.json"⟩ = some none := by rfl
  have kept := ((entries_are_written_once cache history).1 ⟨"/pet.json"⟩ none held).2
  have replaced := ((entries_are_written_once cache
    (history ++ [(repaired, .insert ⟨"/pet.json"⟩ (.object []))])).1 ⟨"/pet.json"⟩ none held).1
  have inserted : insertedAt? ⟨"/pet.json"⟩ (repaired, .insert ⟨"/pet.json"⟩ (.object [])) =
      some (.object []) := by
    rw [insertedAt?, canonical?_repaired]
    rfl
  refine ⟨held, kept repaired ⟨"//pet.json"⟩ (by rfl), ?_, canonical?_removed,
    (entries_are_written_once DocumentCache.empty []).2 removed ⟨"/pet.json"⟩ rfl canonical?_removed⟩
  rw [replaced, lastInserted?, List.filterMap_append, List.filterMap_cons_some inserted,
    List.filterMap_nil, List.getLast?_concat, Option.elim_some]

end RepairedFile

end ApiContract
