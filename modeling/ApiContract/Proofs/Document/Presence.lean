import ApiContract.Proofs.Document.Sharing

/-
This file says what a cache tells when it is asked whether it has a path. It looks for the canonical
path alone, so what it affirms is known; but it denies every document that was inserted where no file
is, though a look-up is answered by it.
-/

namespace ApiContract

namespace CacheCall

/-- Whether a call inserts a document under the components of a path, at a spelling that leads
nowhere. -/
def InsertsAstray (files : FileSystem) (path : Path) : CacheCall → Prop
  | .insert other _ => files.canonical? other = none ∧ other.same path = true
  | _ => False

end CacheCall

namespace DocumentCache

/-- Whether a cache holds an entry that answers a look-up of a path: nothing is loaded for it, and the
cache stays as it is. -/
def IsKnown (files : FileSystem) (cache : DocumentCache) (path : Path) : Prop :=
  ∃ key entry, (key = path ∨ files.canonical? path = some key) ∧
    cache.entryOf? key = some entry ∧
      (cache.getBy (loadLogged files) files path).run [] = ((entry, cache), [])

/-- A cache knows the paths that it has an entry for, and those whose canonical path has one. -/
theorem isKnown_iff (files : FileSystem) (cache : DocumentCache) (path : Path) :
    cache.IsKnown files path ↔ (cache.entryOf? path).isSome = true ∨
      ∃ key, files.canonical? path = some key ∧ (cache.entryOf? key).isSome = true := by
  constructor
  · rintro ⟨key, entry, rfl | found, held, -⟩
    · exact .inl (by rw [held, Option.isSome_some])
    · exact .inr ⟨key, found, by rw [held, Option.isSome_some]⟩
  · intro known
    cases own : cache.entryOf? path with
    | some entry =>
        refine ⟨path, entry, .inl rfl, own, ?_⟩
        simp only [getBy, own]
        rfl
    | none =>
        rw [own] at known
        obtain ⟨key, found, present⟩ := known.resolve_left Bool.false_ne_true
        obtain ⟨entry, held⟩ := Option.isSome_iff_exists.mp present
        refine ⟨key, entry, .inr found, held, ?_⟩
        simp only [getBy, own, found, held]
        rfl

/-- A cache contains a path if the path leads to a key that has an entry. -/
theorem contains_iff (files : FileSystem) (cache : DocumentCache) (path : Path) :
    cache.contains files path = true ↔
      ∃ key, files.canonical? path = some key ∧ (cache.entryOf? key).isSome = true :=
  Option.any_eq_true _ _

/-- A cache has a path exactly if the path leads to a file whose canonical path is known. -/
theorem contains_iff_canonical (files : FileSystem) (cache : DocumentCache) (path : Path) :
    cache.contains files path = true ↔
      ∃ key, files.canonical? path = some key ∧ cache.IsKnown files key := by
  rw [contains_iff]
  refine exists_congr fun key => and_congr_right fun found => ?_
  rw [isKnown_iff, files.canonical?_idem path key found]
  simp

/-- What a cache contains is known to it. -/
theorem isKnown_of_contains {files : FileSystem} {cache : DocumentCache} {path : Path}
    (has : cache.contains files path = true) : cache.IsKnown files path :=
  (isKnown_iff files cache path).mpr (.inr ((contains_iff files cache path).mp has))

/-- Whether every entry is one of a file, or of a document that one of some calls inserted at a
spelling that leads nowhere. -/
def IsAccountedFor (files : FileSystem) (calls : List CacheCall) (cache : DocumentCache) : Prop :=
  ∀ path, (cache.entryOf? path).isSome = true →
    (∃ key, files.canonical? key = some key ∧ key.same path = true) ∨
      ∃ call ∈ calls, call.InsertsAstray files path

section

variable {files : FileSystem} {calls : List CacheCall} {cache : DocumentCache}

/-- An empty cache is accounted for by any calls. -/
theorem isAccountedFor_empty : IsAccountedFor files calls empty := nofun

/-- A key may be set if it is canonical, or if a document was inserted astray under its components. -/
theorem IsAccountedFor.set (accounted : IsAccountedFor files calls cache) {key : Path}
    (allowed : ∀ path, key.same path = true → files.canonical? key = some key ∨
      ∃ call ∈ calls, call.InsertsAstray files path) (entry : Option Json) :
    IsAccountedFor files calls (cache.set key entry) := by
  intro path present
  rw [entryOf?_set] at present
  split at present
  · next same => exact (allowed path same).imp_left fun canonical => ⟨key, canonical, same⟩
  · exact accounted path present

/-- A look-up keeps a cache accounted for. -/
theorem IsAccountedFor.get (accounted : IsAccountedFor files calls cache) (path : Path) :
    IsAccountedFor files calls (cache.get files path).2 := by
  rcases cache.get_cases files path with ⟨_, _, given⟩ | ⟨_, missing | found⟩
  · rwa [given]
  · rwa [missing.2]
  · obtain ⟨key, canonical, ⟨_, _, given⟩ | ⟨_, given⟩⟩ := found
    · rwa [given]
    · rw [given]
      exact accounted.set (fun _ _ => .inl (files.canonical?_idem path key canonical)) _

/-- Inserting keeps a cache accounted for, if the calls list it. -/
theorem IsAccountedFor.insert (accounted : IsAccountedFor files calls cache) {path : Path}
    {document : Json} (member : .insert path document ∈ calls) :
    IsAccountedFor files calls (cache.insert files path document) := by
  apply accounted.set
  intro other same
  cases found : files.canonical? path with
  | some key => exact .inl (files.canonical?_idem path key found)
  | none =>
      rw [found, Option.getD_none] at same
      exact .inr ⟨_, member, found, same⟩

/-- A call leaves no entry that is not accounted for. -/
theorem IsAccountedFor.perform (accounted : IsAccountedFor files calls cache) {call : CacheCall}
    (member : call ∈ calls) : IsAccountedFor files calls (cache.perform files call.toAction) := by
  cases call with
  | insert path document => exact accounted.insert member
  | get path => exact accounted.get path
  | preload directory => exact preload_keeps (fun path _ held => held.get path) directory accounted

/-- Whatever calls are made one after the other, no entry is left that is not accounted for. -/
theorem IsAccountedFor.after (accounted : IsAccountedFor files calls cache)
    (made : List CacheCall) (members : ∀ call ∈ made, call ∈ calls) :
    IsAccountedFor files calls
      (cache.after (made.map fun call => (files, call.toAction))) := by
  induction made generalizing cache with
  | nil => exact accounted
  | cons call rest ih =>
      obtain ⟨first, others⟩ := List.forall_mem_cons.mp members
      exact ih (accounted.perform first) others

/-- A cache has every path to a file that it knows, unless a document was inserted astray. -/
theorem IsAccountedFor.contains_of_isKnown (accounted : IsAccountedFor files calls cache)
    {path key : Path} (found : files.canonical? path = some key)
    (straight : ∀ call ∈ calls, ¬call.InsertsAstray files path) (known : cache.IsKnown files path) :
    cache.contains files path = true := by
  rw [contains_iff]
  rcases (isKnown_iff files cache path).mp known with own | canonical
  · rcases accounted path own with ⟨other, canonical, same⟩ | ⟨call, member, astray⟩
    · cases files.canonical?_eq_of_same_of_some canonical same found
      exact ⟨key, found, by rwa [cache.entryOf?_congr same]⟩
    · exact absurd astray (straight call member)
  · exact canonical

end

/-- An inserted document is known. -/
theorem isKnown_insert (files : FileSystem) (cache : DocumentCache) (path : Path) (document : Json) :
    (cache.insert files path document).IsKnown files path := by
  rw [isKnown_iff, insert]
  cases found : files.canonical? path with
  | none =>
      left
      rw [Option.getD_none, entryOf?_set_self, Option.isSome_some]
  | some key =>
      right
      refine ⟨key, rfl, ?_⟩
      rw [Option.getD_some, entryOf?_set_self, Option.isSome_some]

/-- An inserted document is contained if and only if its path can be made canonical. -/
theorem contains_insert_iff (files : FileSystem) (cache : DocumentCache) (path : Path)
    (document : Json) :
    (cache.insert files path document).contains files path = true ↔
      ∃ key, files.canonical? path = some key := by
  rw [contains_iff]
  refine exists_congr fun key => and_iff_left_of_imp fun found => ?_
  rw [insert, found, Option.getD_some, entryOf?_set_self, Option.isSome_some]

/-- What a look-up finds is known afterwards. -/
theorem isKnown_get (files : FileSystem) (cache : DocumentCache) (path : Path)
    (leads : (∃ key, files.canonical? path = some key) ∨ (cache.get files path).1.isSome = true) :
    (cache.get files path).2.IsKnown files path := by
  rw [isKnown_iff]
  rcases cache.get_cases files path with ⟨entry, held, given⟩ | ⟨absent, missing | found⟩
  · rw [given]
    exact .inl (by rw [held, Option.isSome_some])
  · rw [missing.1, missing.2] at leads
    simp at leads
  · obtain ⟨key, canonical, ⟨entry, held, given⟩ | ⟨unknown, given⟩⟩ := found
    · rw [given]
      exact .inr ⟨key, canonical, by rw [held, Option.isSome_some]⟩
    · rw [given]
      refine .inr ⟨key, canonical, ?_⟩
      rw [entryOf?_set_self, Option.isSome_some]

/-- A cache has a path exactly if the path leads to a file whose canonical path is known, so nothing
that it has would be loaded. -/
theorem contains_tells_known_files (files : FileSystem) (calls : List CacheCall) (path : Path) :
    let cache := empty.after (calls.map fun call => (files, call.toAction))
    (cache.contains files path = true ↔
      ∃ key, files.canonical? path = some key ∧ cache.IsKnown files key) ∧
    (cache.contains files path = true → cache.IsKnown files path) ∧
    -- A known file is denied only if a document was inserted at a spelling that leads nowhere.
    (∀ key, files.canonical? path = some key →
      (∀ call ∈ calls, ¬call.InsertsAstray files path) →
        (cache.contains files path = true ↔ cache.IsKnown files path)) ∧
    -- What was inserted or found is known, but the cache has it only if the path leads to a file.
    (∀ document,
      let later := cache.insert files path document
      later.IsKnown files path ∧
        (later.contains files path = true ↔ ∃ key, files.canonical? path = some key)) ∧
    ((cache.get files path).1.isSome = true →
      let later := (cache.get files path).2
      later.IsKnown files path ∧
        ((∀ call ∈ calls, ¬call.InsertsAstray files path) →
          (later.contains files path = true ↔ ∃ key, files.canonical? path = some key))) := by
  intro cache
  have accounted : IsAccountedFor files calls cache :=
    isAccountedFor_empty.after calls fun _ member => member
  refine ⟨contains_iff_canonical files cache path, isKnown_of_contains, ?_, ?_, ?_⟩
  · intro key found straight
    exact ⟨isKnown_of_contains, accounted.contains_of_isKnown found straight⟩
  · exact fun document =>
      ⟨isKnown_insert files cache path document, contains_insert_iff files cache path document⟩
  · intro present later
    have known : later.IsKnown files path := isKnown_get files cache path (.inr present)
    refine ⟨known, fun straight => ?_⟩
    constructor
    · intro has
      obtain ⟨key, found, -⟩ := (contains_iff files later path).mp has
      exact ⟨key, found⟩
    · rintro ⟨key, found⟩
      exact (accounted.get path).contains_of_isKnown found straight known

end DocumentCache

namespace LinkedFile

open DocumentCache

/-- A document that is inserted through a link is there under another spelling of its file, and stays
there when it is looked up. -/
theorem cache_has_linked_file :
    let calls : List CacheCall := [.insert ⟨"/gone.json"⟩ .null, .insert ⟨"link.json"⟩ (.object [])]
    let cache := empty.after (calls.map fun call => (files, call.toAction))
    let path : Path := ⟨"//models/./cat.json"⟩
    files.canonical? path = some ⟨"/models/cat.json"⟩ ∧
      (∀ call ∈ calls, ¬call.InsertsAstray files path) ∧ cache.contains files path = true ∧
        cache.IsKnown files path ∧ (cache.get files path).1.isSome = true ∧
          (cache.get files path).2.contains files path = true := by
  intro calls cache path
  have same : (⟨"/models/cat.json"⟩ : Path).same path = true := by decide
  have found : files.canonical? path = some ⟨"/models/cat.json"⟩ :=
    files.canonical?_of_same canonical?_link same (by decide)
  have straight : ∀ call ∈ calls, ¬call.InsertsAstray files path := by
    intro call member
    rcases List.mem_pair.mp member with rfl | rfl
    · rintro ⟨-, apart⟩
      exact absurd apart (by decide)
    · rintro ⟨nowhere, -⟩
      rw [canonical?_link] at nowhere
      cases nowhere
  have held : cache.entryOf? path = some (some (.object [])) := by
    rw [← cache.entryOf?_congr same]
    change ((empty.insert files ⟨"/gone.json"⟩ .null).insert files ⟨"link.json"⟩
      (.object [])).entryOf? _ = _
    rw [DocumentCache.insert, canonical?_link, Option.getD_some, entryOf?_set_self]
  have known : cache.IsKnown files path :=
    (isKnown_iff files cache path).mpr (.inl (by rw [held, Option.isSome_some]))
  have present : (cache.get files path).1.isSome = true := by
    rw [get_of_entryOf? held, Option.isSome_some]
  obtain ⟨-, -, agree, -, looked⟩ := contains_tells_known_files files calls path
  exact ⟨found, straight, (agree _ found straight).mpr known, known, present,
    ((looked present).2 straight).mpr ⟨_, found⟩⟩

end LinkedFile

namespace MemoryFile

open DocumentCache

def files : FileSystem := ⟨[], []⟩

def path : Path := ⟨"/in-memory/user.yaml"⟩

theorem canonical?_path : files.canonical? path = none := by
  have located : files.locate path = .error .notFound := by
    change files.walk FileSystem.greatestLinkCount [] ["", "in-memory", "user.yaml"] =
      .error .notFound
    rw [files.walk_blank _ [] "" _ rfl _ files.node?_nil,
      files.walk_cons_error _ [] _ _ .notFound rfl]
  rw [FileSystem.canonical?, located]

/-- A document without a file answers every look-up, and the cache denies that it has it. -/
theorem cache_denies_inserted_document :
    let cache := empty.after
      ([CacheCall.insert path (.object [])].map fun call => (files, call.toAction))
    cache.get files path = (some (.object []), cache) ∧ cache.IsKnown files path ∧
      cache.contains files path = false := by
  intro cache
  have held : cache.entryOf? path = some (some (.object [])) := by
    change (empty.insert files path (.object [])).entryOf? path = _
    rw [DocumentCache.insert, canonical?_path, Option.getD_none, entryOf?_set_self]
  refine ⟨get_of_entryOf? held files, isKnown_insert files empty path (.object []), ?_⟩
  rw [contains, canonical?_path, Option.any_none]

end MemoryFile

end ApiContract
