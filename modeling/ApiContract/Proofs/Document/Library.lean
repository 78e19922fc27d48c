import ApiContract.Cache
import ApiContract.Proofs.File.Spelling

/-
This file says which document each path has, apart from any cache: one that was inserted, or what
the file system gives. A cache that holds nothing else answers every look-up by it, whatever was
looked up before.
-/

namespace ApiContract

namespace DocumentCache

/-- Setting an entry changes what is found at its key and nothing else. -/
theorem find?_setEntry (key path : Path) (document : Option Json)
    (entries : List (Path × Option Json)) :
    ((setEntry key document entries).find? fun entry => entry.1.same path).map (·.2) =
      if key.same path then some document
      else (entries.find? fun entry => entry.1.same path).map (·.2) := by
  induction entries with
  | nil =>
      rw [setEntry]
      cases here : key.same path <;> simp [here]
  | cons entry rest ih =>
      obtain ⟨other, held⟩ := entry
      rw [setEntry]
      by_cases replaced : other.same key = true
      · have alike : other.same path = key.same path := by
          rw [other.same_comm, key.same_comm, Path.same_congr replaced]
        rw [if_pos replaced]
        cases here : key.same path <;> simp [alike, here]
      · rw [if_neg replaced]
        by_cases here : other.same path = true
        · have different : key.same path = false := by
            rw [Bool.eq_false_iff]
            intro alike
            rw [← Path.same_congr alike] at here
            exact replaced here
          simp [here, different]
        · simpa [here] using ih

/-- Setting a key changes the entries of its spellings and no other. -/
theorem entryOf?_set (cache : DocumentCache) (key path : Path) (document : Option Json) :
    (cache.set key document).entryOf? path =
      if key.same path then some document else cache.entryOf? path :=
  find?_setEntry key path document cache.entries

@[simp]
theorem entryOf?_set_self (cache : DocumentCache) (key : Path) (document : Option Json) :
    (cache.set key document).entryOf? key = some document := by
  rw [entryOf?_set, if_pos key.same_refl]

/-- A cache tells no spellings of one path apart. -/
theorem entryOf?_congr (cache : DocumentCache) {first second : Path}
    (same : first.same second = true) : cache.entryOf? first = cache.entryOf? second := by
  simp only [entryOf?, Path.same_congr same]

/-- A look-up gives an entry, finds nothing, or loads what it does not know. -/
theorem get_cases (cache : DocumentCache) (files : FileSystem) (path : Path) :
    (∃ entry, cache.entryOf? path = some entry ∧ cache.get files path = (entry, cache)) ∨
      cache.entryOf? path = none ∧
        (files.canonical? path = none ∧ cache.get files path = (none, cache) ∨
          ∃ key, files.canonical? path = some key ∧
            ((∃ entry, cache.entryOf? key = some entry ∧ cache.get files path = (entry, cache)) ∨
              cache.entryOf? key = none ∧
                cache.get files path =
                  (Document.load? files key, cache.set key (Document.load? files key)))) := by
  unfold get
  cases held : cache.entryOf? path with
  | some entry => exact .inl ⟨entry, rfl, rfl⟩
  | none =>
      cases found : files.canonical? path with
      | none => exact .inr ⟨rfl, .inl ⟨rfl, rfl⟩⟩
      | some key =>
          cases known : cache.entryOf? key with
          | some entry => exact .inr ⟨rfl, .inr ⟨key, rfl, .inl ⟨entry, known, by simp [known]⟩⟩⟩
          | none => exact .inr ⟨rfl, .inr ⟨key, rfl, .inr ⟨known, by simp [known]⟩⟩⟩

/-- What a look-up gives: the entry of the path, or else that of its canonical path, or else what is
loaded from there. -/
theorem get_eq (cache : DocumentCache) (files : FileSystem) (path : Path) :
    (cache.get files path).1 =
      (cache.entryOf? path).getD ((files.canonical? path).bind fun key =>
        (cache.entryOf? key).getD (Document.load? files key)) := by
  rcases cache.get_cases files path with ⟨entry, held, given⟩ | ⟨absent, missing | found⟩
  · rw [given, held, Option.getD_some]
  · rw [missing.2, absent, missing.1, Option.getD_none, Option.bind_none]
  · obtain ⟨key, canonical, ⟨entry, held, given⟩ | ⟨unknown, given⟩⟩ := found
    · rw [given, absent, canonical, Option.getD_none, Option.bind_some, held, Option.getD_some]
    · rw [given, absent, canonical, Option.getD_none, Option.bind_some, unknown, Option.getD_none]

/-- A canonical path has an entry once it was looked up. -/
theorem entryOf?_after_get (cache : DocumentCache) (files : FileSystem) (path : Path)
    (canonical : files.canonical? path = some path) :
    (cache.get files path).2.entryOf? path = some (cache.get files path).1 := by
  rcases cache.get_cases files path with ⟨entry, held, given⟩ | ⟨absent, missing | found⟩
  · rw [given, held]
  · rw [canonical] at missing
    cases missing.1
  · obtain ⟨key, leads, known⟩ := found
    cases canonical.symm.trans leads
    rcases known with ⟨entry, held, given⟩ | ⟨_, given⟩
    · rw [given, held]
    · rw [given, entryOf?_set_self]

/-- A path that is looked up twice gives one answer. -/
theorem get_again (cache : DocumentCache) (files : FileSystem) (path : Path) :
    ((cache.get files path).2.get files path).1 = (cache.get files path).1 := by
  rcases cache.get_cases files path with ⟨_, _, given⟩ | ⟨absent, missing | found⟩
  · rw [given, given]
  · rw [missing.2, missing.2]
  · obtain ⟨key, canonical, ⟨_, _, given⟩ | ⟨_, given⟩⟩ := found
    · rw [given, given]
    · rw [given, get_eq, entryOf?_set, absent, canonical, Option.bind_some, entryOf?_set_self,
        Option.getD_some]
      split <;> rfl

/-- A look-up of a canonical path changes nothing for the paths that are no spelling of it. -/
theorem get_after_get (cache : DocumentCache) (files : FileSystem) (path other : Path)
    (canonical : files.canonical? path = some path) (apart : path.same other = false) :
    ((cache.get files path).2.get files other).1 = (cache.get files other).1 := by
  rcases cache.get_cases files path with ⟨_, _, given⟩ | ⟨absent, missing | found⟩
  · rw [given]
  · rw [missing.2]
  · obtain ⟨key, leads, known⟩ := found
    cases canonical.symm.trans leads
    rcases known with ⟨_, _, given⟩ | ⟨_, given⟩
    · rw [given]
    · rw [given, get_eq, get_eq, entryOf?_set, if_neg (by rw [apart]; exact Bool.false_ne_true)]
      congr 1
      cases onward : files.canonical? other with
      | none => rfl
      | some key =>
          rw [Option.bind_some, Option.bind_some, entryOf?_set]
          split
          · next same =>
              cases files.canonical?_eq_of_same canonical onward same
              rw [absent, Option.getD_some, Option.getD_none]
          · rfl

/-- What every look-up keeps, reading a directory keeps. -/
theorem preload_keeps {files : FileSystem} {property : DocumentCache → Prop}
    (gets : ∀ path cache, property cache → property (cache.get files path).2) (directory : Path)
    {cache : DocumentCache} (held : property cache) :
    property (cache.preload files directory).2 := by
  unfold preload
  generalize specificationsIn files directory = paths
  generalize 0 = count
  induction paths generalizing count cache with
  | nil => exact held
  | cons path rest ih => exact ih (gets path cache held) _

end DocumentCache

/-- A file system, and the documents that were put in the place of files. -/
structure Library where
  files : FileSystem
  inserted : List (Path × Json)

namespace Library

/-- The document that was inserted at a path. -/
def inserted? (library : Library) (path : Path) : Option Json :=
  (library.inserted.find? fun entry => entry.1.same path).map (·.2)

/-- The document of a path. -/
def document? (library : Library) (path : Path) : Option Json :=
  match library.inserted? path with
  | some document => some document
  | none =>
      match library.files.canonical? path with
      | none => none
      | some key => (library.inserted? key).or (Document.load? library.files key)

/-- Whether a cache holds the inserted documents, and else only what loading canonical paths
gives. -/
structure Explains (library : Library) (cache : DocumentCache) : Prop where
  inserted : ∀ path document, library.inserted? path = some document →
    cache.entryOf? path = some (some document)
  loaded : ∀ path entry, library.inserted? path = none → cache.entryOf? path = some entry →
    ∃ key, library.files.canonical? key = some key ∧ key.same path = true ∧
      entry = Document.load? library.files key

/-- Whether the file system finds a file under each of its spellings that is this path, or a document
was inserted there. -/
def Settles (library : Library) (path : Path) : Prop :=
  (library.inserted? path).isSome ∨ ∀ key, library.files.canonical? key = some key →
    key.same path = true → library.files.canonical? path = some key

/-- An inserted document is found under every spelling of its path. -/
theorem inserted?_congr (library : Library) {first second : Path}
    (same : first.same second = true) : library.inserted? first = library.inserted? second := by
  simp only [inserted?, Path.same_congr same]

/-- A path that ends in a name settles. -/
theorem settles_of_endsInName (library : Library) (path : Path) (ends : path.endsInName = true) :
    library.Settles path :=
  .inr fun _ found same => library.files.canonical?_of_same found same ends

/-- A path that leads to a file settles: only a spelling that leads nowhere, of a file that is there,
does not. -/
theorem settles_of_exists (library : Library) {path key : Path}
    (found : library.files.canonical? path = some key) : library.Settles path := by
  right
  intro other canonical same
  rw [found, library.files.canonical?_eq_of_same_of_some canonical same found]

/-- A canonical path leads to itself. -/
theorem settles_of_canonical (library : Library) {path key : Path}
    (found : library.files.canonical? path = some key) : library.Settles key :=
  library.settles_of_exists (library.files.canonical?_idem path key found)

/-- A path with a document settles. -/
theorem settles_of_document? (library : Library) {path : Path} {document : Json}
    (held : library.document? path = some document) : library.Settles path := by
  unfold document? at held
  split at held
  · next inserted put => exact .inl (by rw [put, Option.isSome_some])
  · split at held
    · cases held
    · next key found => exact library.settles_of_exists found

/-- An inserted document is the document of its path. -/
theorem document?_of_inserted (library : Library) (path : Path) (document : Json)
    (held : library.inserted? path = some document) : library.document? path = some document := by
  simp [document?, held]

/-- A path with no inserted document has that of the canonical path that it leads to. -/
theorem document?_of_canonical (library : Library) {path key : Path}
    (held : library.inserted? path = none) (found : library.files.canonical? path = some key) :
    library.document? path = (library.inserted? key).or (Document.load? library.files key) := by
  simp [document?, held, found]

/-- A document was inserted, or can be loaded. -/
theorem inserted_or_loaded (library : Library) {path : Path} {document : Json}
    (held : library.document? path = some document) :
    (∃ key, (key, document) ∈ library.inserted) ∨
      ∃ key, Document.load? library.files key = some document := by
  have inserted {path : Path} (put : library.inserted? path = some document) :
      ∃ key, (key, document) ∈ library.inserted := by
    obtain ⟨⟨key, _⟩, found, rfl⟩ := Option.map_eq_some_iff.mp put
    exact ⟨key, List.mem_of_find?_eq_some found⟩
  unfold document? at held
  split at held
  · next put => exact .inl (inserted (held ▸ put))
  · split at held
    · cases held
    · next key _ =>
        rcases Option.or_eq_some_iff.mp held with put | ⟨-, loaded⟩
        · exact .inl (inserted put)
        · exact .inr ⟨key, loaded⟩

variable {library : Library} {cache : DocumentCache}

/-- An entry of a cache is the document of its path. -/
theorem Explains.entry (explained : library.Explains cache) (path : Path)
    (settled : library.Settles path) (entry : Option Json) (held : cache.entryOf? path = some entry) :
    entry = library.document? path := by
  cases put : library.inserted? path with
  | some document =>
      rw [library.document?_of_inserted path document put]
      exact Option.some.inj (held.symm.trans (explained.inserted path document put))
  | none =>
      obtain ⟨key, canonical, same, rfl⟩ := explained.loaded path entry put held
      have found : library.files.canonical? path = some key := by
        rcases settled with inserted | found
        · rw [put] at inserted
          cases inserted
        · exact found key canonical same
      rw [library.document?_of_canonical put found, library.inserted?_congr same, put, Option.none_or]

/-- A cache that has no entry for a path has none for an inserted document there. -/
theorem Explains.inserted?_eq_none (explained : library.Explains cache) (path : Path)
    (absent : cache.entryOf? path = none) : library.inserted? path = none := by
  cases put : library.inserted? path with
  | none => rfl
  | some document =>
      rw [explained.inserted path document put] at absent
      cases absent

/-- A cache answers with the document of a path. -/
theorem Explains.get (explained : library.Explains cache) (path : Path)
    (settled : library.Settles path) :
    (cache.get library.files path).1 = library.document? path := by
  rcases cache.get_cases library.files path with ⟨entry, held, given⟩ | ⟨absent, missing | found⟩
  · rw [given]
    exact explained.entry path settled entry held
  · have put := explained.inserted?_eq_none path absent
    simp [missing, document?, put]
  · obtain ⟨key, canonical, known⟩ := found
    have put := explained.inserted?_eq_none path absent
    rw [library.document?_of_canonical put canonical]
    rcases known with ⟨entry, held, given⟩ | ⟨unknown, given⟩
    · have again := library.files.canonical?_idem path key canonical
      rw [given, explained.entry key (library.settles_of_canonical canonical) entry held]
      cases inserted : library.inserted? key with
      | some document => rw [library.document?_of_inserted key document inserted, Option.some_or]
      | none => rw [library.document?_of_canonical inserted again, inserted]
    · rw [given, explained.inserted?_eq_none key unknown, Option.none_or]

/-- A look-up leaves a cache that the library explains. -/
theorem Explains.after_get (explained : library.Explains cache) (path : Path) :
    library.Explains (cache.get library.files path).2 := by
  rcases cache.get_cases library.files path with ⟨entry, _, given⟩ | ⟨absent, missing | found⟩
  · rw [given]
    exact explained
  · rw [missing.2]
    exact explained
  · obtain ⟨key, found, ⟨entry, _, given⟩ | ⟨unknown, given⟩⟩ := found
    · rw [given]
      exact explained
    · rw [given]
      constructor
      · intro other document put
        have before := explained.inserted other document put
        rw [DocumentCache.entryOf?_set, before, if_neg]
        intro same
        rw [cache.entryOf?_congr same, before] at unknown
        cases unknown
      · intro other entry put after
        rw [DocumentCache.entryOf?_set] at after
        split at after
        · next same =>
            exact ⟨key, library.files.canonical?_idem path key found, same,
              (Option.some.inj after).symm⟩
        · exact explained.loaded other entry put after

/-- Reading a directory leaves a cache that the library explains. -/
theorem Explains.after_preload (explained : library.Explains cache) (directory : Path) :
    library.Explains (cache.preload library.files directory).2 :=
  DocumentCache.preload_keeps (fun path _ known => known.after_get path) directory explained

/-- What a cache gives for a spelling of a canonical path is the document of that path. -/
theorem Explains.get_spelling (explained : library.Explains cache) {key path : Path}
    (canonical : library.files.canonical? key = some key) (same : key.same path = true)
    (document : Json) (given : (cache.get library.files path).1 = some document) :
    library.document? key = some document := by
  have alike := explained.get key (library.settles_of_canonical canonical)
  rw [← alike]
  rcases cache.get_cases library.files path with ⟨entry, held, answer⟩ | ⟨absent, missing | found⟩
  · rcases cache.get_cases library.files key with ⟨entry', held', answer'⟩ | ⟨absent', _⟩
    · rw [cache.entryOf?_congr same, held] at held'
      rw [answer', ← Option.some.inj held', ← given, answer]
    · rw [cache.entryOf?_congr same, held] at absent'
      cases absent'
  · rw [missing.2] at given
    cases given
  · obtain ⟨other, leads, _⟩ := found
    have again := library.files.canonical?_eq_of_same_of_some canonical same leads
    subst again
    have absent' : cache.entryOf? other = none := by rw [cache.entryOf?_congr same, absent]
    have answer : (cache.get library.files path).1 = (cache.get library.files other).1 := by
      simp only [DocumentCache.get, absent, absent', leads, canonical]
    rw [← answer, given]

/-- The empty cache is explained when nothing was inserted. -/
theorem explains_empty (files : FileSystem) : Explains ⟨files, []⟩ DocumentCache.empty :=
  ⟨by simp [inserted?], by simp [DocumentCache.entryOf?, DocumentCache.empty]⟩

/-- A cache of nothing but inserted documents is explained by them. -/
theorem explains_inserted (files : FileSystem) (inserted : List (Path × Json)) :
    Explains ⟨files, inserted⟩ ⟨inserted.map fun entry => (entry.1, some entry.2)⟩ := by
  have held (path : Path) :
      DocumentCache.entryOf? ⟨inserted.map fun entry => (entry.1, some entry.2)⟩ path =
        (inserted? ⟨files, inserted⟩ path).map some := by
    rw [DocumentCache.entryOf?, inserted?, List.find?_map, Option.map_map, Option.map_map]
    rfl
  constructor
  · intro path document put
    rw [held, put, Option.map_some]
  · intro path entry absent present
    rw [held, absent] at present
    cases present

/-- Inserting a document in a cache is inserting it in the library. -/
theorem Explains.after_insert (explained : library.Explains cache) (path : Path) (document : Json) :
    Explains ⟨library.files,
        ((library.files.canonical? path).getD path, document) :: library.inserted⟩
      (cache.insert library.files path document) := by
  have put (other : Path) :
      inserted? ⟨library.files,
        ((library.files.canonical? path).getD path, document) :: library.inserted⟩ other =
        if ((library.files.canonical? path).getD path).same other then some document
        else library.inserted? other := by
    cases here : ((library.files.canonical? path).getD path).same other <;>
      simp [inserted?, here]
  constructor
  · intro other held inserted
    rw [put] at inserted
    rw [DocumentCache.insert, DocumentCache.entryOf?_set]
    split at inserted
    · next same => rw [if_pos same, inserted]
    · next different => rw [if_neg different, explained.inserted other held inserted]
  · intro other entry inserted held
    rw [put] at inserted
    rw [DocumentCache.insert, DocumentCache.entryOf?_set] at held
    split at inserted
    · cases inserted
    · next different =>
        rw [if_neg different] at held
        exact explained.loaded other entry inserted held

end Library

end ApiContract
