import ApiContract.Document

/-
This file remembers documents by the canonical paths of their files. A file that cannot be read is
remembered too, so it is read once at most.
-/

namespace ApiContract

/-- The documents that are known, and the files that are known to hold none. -/
structure DocumentCache where
  entries : List (Path × Option Json)

namespace DocumentCache

def empty : DocumentCache := ⟨[]⟩

def size (cache : DocumentCache) : Nat := cache.entries.length

/-- The entry of a key. Keys are compared by their components. -/
def entryOf? (cache : DocumentCache) (key : Path) : Option (Option Json) :=
  (cache.entries.find? fun entry => entry.1.same key).map (·.2)

/-- Sets the entry of a key. -/
def setEntry (key : Path) (document : Option Json) :
    List (Path × Option Json) → List (Path × Option Json)
  | [] => [(key, document)]
  | (other, held) :: rest =>
      if other.same key then (other, document) :: rest
      else (other, held) :: setEntry key document rest

def set (cache : DocumentCache) (key : Path) (document : Option Json) : DocumentCache :=
  ⟨setEntry key document cache.entries⟩

/-- Puts a document in the place of a file. The file need not exist. -/
def insert (files : FileSystem) (path : Path) (document : Json) (cache : DocumentCache) :
    DocumentCache :=
  cache.set ((files.canonical? path).getD path) (some document)

/-- The document at a path, which is read if it is not known yet. -/
def get (files : FileSystem) (path : Path) (cache : DocumentCache) :
    Option Json × DocumentCache :=
  match cache.entryOf? path with
  | some entry => (entry, cache)
  | none =>
      match files.canonical? path with
      | none => (none, cache)
      | some key =>
          match cache.entryOf? key with
          | some entry => (entry, cache)
          | none =>
              let entry := Document.load? files key
              (entry, cache.set key entry)

/-- The specifications directly in a directory, in the order of their names. -/
def specificationsIn (files : FileSystem) (directory : Path) : List Path :=
  let paths := ((files.names directory).mergeSort fun first second => !second < first).map
    fun name => directory.join ⟨name⟩
  paths.filter fun path => files.isFile path && path.isSpecification

/-- Reads the specifications in a directory, and counts those that hold a document. -/
def preload (files : FileSystem) (directory : Path) (cache : DocumentCache) :
    Nat × DocumentCache :=
  (specificationsIn files directory).foldl
    (fun (count, cache) path =>
      let (document, cache) := cache.get files path
      (if document.isSome then count + 1 else count, cache))
    (0, cache)

/-- Whether an existing file has an entry. -/
def contains (files : FileSystem) (path : Path) (cache : DocumentCache) : Bool :=
  (files.canonical? path).any fun key => (cache.entryOf? key).isSome

/-- The documents that are known. -/
def documents (cache : DocumentCache) : List Json := cache.entries.filterMap (·.2)

end DocumentCache

end ApiContract
