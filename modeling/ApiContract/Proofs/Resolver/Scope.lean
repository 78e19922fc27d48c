import ApiContract.Resolver
import ApiContract.Proofs.Document.Library
import ApiContract.Proofs.Json.Members

/-
This file proves that a run of a resolver stays in a finite scope. Every document that a look-up can
give is known or can be read from the start, so the references in it are among finitely many.
-/

namespace ApiContract

namespace Json

theorem itemReferences_eq (items : List Json) : itemReferences items = items.flatMap references := by
  induction items with
  | nil => rw [itemReferences, List.flatMap_nil]
  | cons item rest ih => rw [itemReferences, ih, List.flatMap_cons]

theorem memberReferences_eq (members : List (String × Json)) :
    memberReferences members = members.flatMap fun member => member.2.references := by
  induction members with
  | nil => rw [memberReferences, List.flatMap_nil]
  | cons member rest ih => rw [memberReferences, ih, List.flatMap_cons]

/-- A reference is one of its own references. -/
theorem reference?_mem_references (node : Json) (text : String)
    (reference : node.reference? = some text) : text ∈ node.references := by
  rw [references.eq_def, reference]
  exact .head _

/-- The references of an item are references of the array. -/
theorem item_references_subset (items : List Json) (item : Json) (member : item ∈ items) :
    item.references ⊆ (array items).references := by
  intro text held
  rw [references, itemReferences_eq]
  exact List.mem_append_right _ (List.mem_flatMap.mpr ⟨item, member, held⟩)

/-- The references of a member are references of the object. -/
theorem member_references_subset (members : List (String × Json)) (key : String) (value : Json)
    (member : (key, value) ∈ members) : value.references ⊆ (object members).references := by
  intro text held
  rw [references, memberReferences_eq]
  exact List.mem_append_right _ (List.mem_flatMap.mpr ⟨(key, value), member, held⟩)

/-- The references of a member that is found are references of the node. -/
theorem member?_references_subset (node inner : Json) (key : String)
    (found : node.member? key = some inner) : inner.references ⊆ node.references := by
  cases node with
  | object members => exact member_references_subset members key inner (Table.mem_of_lookup _ _ _ found)
  | _ => cases found

/-- The references below a step are references of the node. -/
theorem child?_references_subset (node inner : Json) (step : String)
    (found : node.child? step = some inner) : inner.references ⊆ node.references := by
  unfold child? at found
  split at found
  · next members => exact member_references_subset members step inner (Table.mem_of_lookup _ _ _ found)
  · next items =>
      obtain ⟨position, _, item⟩ := Option.bind_eq_some_iff.mp found
      exact item_references_subset items inner (List.mem_of_getElem? item)
  · cases found

/-- The references below a pointer are references of the document. -/
theorem at?_references_subset (document node : Json) (pointer : String)
    (found : document.at? pointer = some node) : node.references ⊆ document.references := by
  have walk (steps : List String) (start : Json)
      (reached : steps.foldlM (fun node step => node.child? (Pointer.unescape step)) start =
        some node) : node.references ⊆ start.references := by
    induction steps generalizing start with
    | nil =>
        cases reached
        exact List.Subset.refl _
    | cons step rest ih =>
        rw [List.foldlM_cons] at reached
        obtain ⟨next, down, onward⟩ := Option.bind_eq_some_iff.mp reached
        exact List.Subset.trans (ih next onward) (start.child?_references_subset next _ down)
  unfold at? at found
  dsimp only at found
  split at found
  · cases found
    exact List.Subset.refl _
  · exact walk _ document found

end Json

namespace DocumentCache

/-- Setting an entry adds no document but its own. -/
theorem setEntry_documents_subset (key : Path) (document : Option Json)
    (entries : List (Path × Option Json)) :
    (setEntry key document entries).filterMap (·.2) ⊆
      document.toList ++ entries.filterMap (·.2) := by
  induction entries with
  | nil => cases document <;> simp [setEntry]
  | cons entry rest ih =>
      obtain ⟨other, held⟩ := entry
      rw [setEntry]
      split
      · cases document <;> cases held <;> simp
      · cases held with
        | none => simpa using ih
        | some value =>
            intro other member
            simp only [List.filterMap_cons, List.mem_cons, List.mem_append] at member ⊢
            rcases member with same | member
            · exact .inr (.inl same)
            · rcases List.mem_append.mp (ih member) with new | old
              · exact .inl new
              · exact .inr (.inr old)

/-- A document that is found in a cache is one of its documents. -/
theorem mem_documents_of_entryOf? (cache : DocumentCache) (path : Path) (document : Json)
    (held : cache.entryOf? path = some (some document)) : document ∈ cache.documents := by
  obtain ⟨entry, found, same⟩ := Option.map_eq_some_iff.mp held
  exact List.mem_filterMap.mpr ⟨entry, List.mem_of_find?_eq_some found, same⟩

end DocumentCache

namespace Resolver

/-- A document that can be loaded is known. -/
theorem mem_knownDocuments_of_canonical? (files : FileSystem) (cache : DocumentCache)
    (path key : Path) (document : Json) (found : files.canonical? path = some key)
    (loaded : Document.load? files key = some document) :
    document ∈ knownDocuments files cache :=
  List.mem_append_right _
    (List.mem_filterMap.mpr ⟨key, files.canonical?_mem_allPlaces path key found, loaded⟩)

/-- A look-up gives a known document, and adds none to those. -/
theorem get_known (files : FileSystem) (cache : DocumentCache) (path : Path) :
    (∀ document, (cache.get files path).1 = some document →
        document ∈ knownDocuments files cache) ∧
      knownDocuments files (cache.get files path).2 ⊆ knownDocuments files cache := by
  have held (other : Path) (entry : Option Json) (present : cache.entryOf? other = some entry)
      (document : Json) (given : entry = some document) :
      document ∈ knownDocuments files cache :=
    List.mem_append_left _
      (cache.mem_documents_of_entryOf? other document (by rw [present, given]))
  rcases cache.get_cases files path with ⟨entry, present, given⟩ | ⟨_, missing | found⟩
  · rw [given]
    exact ⟨held path entry present, List.Subset.refl _⟩
  · rw [missing.2]
    exact ⟨fun _ absent => (nomatch absent), List.Subset.refl _⟩
  · obtain ⟨key, leads, ⟨entry, present, given⟩ | ⟨_, given⟩⟩ := found
    · rw [given]
      exact ⟨held key entry present, List.Subset.refl _⟩
    · rw [given]
      have readable (document : Json) (loaded : Document.load? files key = some document) :=
        mem_knownDocuments_of_canonical? files cache path key document leads loaded
      refine ⟨readable, ?_⟩
      intro document member
      rcases List.mem_append.mp member with entered | loaded
      · rcases List.mem_append.mp (DocumentCache.setEntry_documents_subset _ _ _ entered) with
          new | old
        · exact readable document (Option.mem_toList.mp new)
        · exact List.mem_append_left _ old
      · exact List.mem_append_right _ loaded

/-- What every look-up keeps, going to the document of a reference keeps. -/
theorem enter_cache {files : FileSystem} {property : DocumentCache → Prop}
    (gets : ∀ path cache, property cache → property (cache.get files path).2)
    (reference : Reference) (context : Context) (cache : DocumentCache) (held : property cache) :
    property (enter files reference context cache).2 := by
  unfold enter
  split
  · split
    · exact held
    · exact gets context.file cache held
  · dsimp only
    split
    · exact held
    · next target _ => exact gets target cache held

end Resolver

namespace Scope

/-- Whether a path is the first of a scope, or one that exists and is canonical. -/
def HasPlace (scope : Scope) (files : FileSystem) (path : Path) : Prop :=
  path = scope.start ∨ files.canonical? path = some path

/-- Whether a target lies in a file of a scope, at the pointer of one of its references. -/
structure Has (scope : Scope) (files : FileSystem) (target : Target) : Prop where
  place : scope.HasPlace files target.file
  pointer : ∃ text ∈ scope.texts, ∃ reference, Reference.ofString? text = some reference ∧
    target.pointer = Text.trimMark '/' reference.pointer

/-- Whether a scope has all references of the documents that a look-up can give. -/
def Covers (scope : Scope) (files : FileSystem) (cache : DocumentCache) : Prop :=
  ∀ document ∈ Resolver.knownDocuments files cache, document.references ⊆ scope.texts

/-- Whether a reference is read in a file of a scope, in a document with references of the scope. -/
structure HoldsContext (scope : Scope) (files : FileSystem) (context : Resolver.Context) : Prop where
  place : scope.HasPlace files context.file
  texts : ∀ document, context.document = some document → document.references ⊆ scope.texts

/-- A scope has finitely many targets. -/
theorem mem_targets (scope : Scope) (files : FileSystem) (target : Target)
    (held : scope.Has files target) : target ∈ scope.targets files := by
  obtain ⟨place, text, given, reference, read, pointer⟩ := held
  have listed : target.file ∈ scope.start :: files.allPlaces := by
    rcases place with first | canonical
    · rw [first]
      exact .head _
    · exact .tail _ (files.canonical?_mem_allPlaces _ _ canonical)
  refine List.mem_flatMap.mpr ⟨target.file, listed, ?_⟩
  refine List.mem_map.mpr ⟨reference, List.mem_filterMap.mpr ⟨text, given, read⟩, ?_⟩
  rw [Target.ofPointer, ← pointer]

variable {scope : Scope} {files : FileSystem} {cache : DocumentCache}

/-- A look-up adds no document to a scope. -/
theorem covers_get (scope : Scope) (files : FileSystem) (path : Path) (cache : DocumentCache)
    (covers : scope.Covers files cache) : scope.Covers files (cache.get files path).2 :=
  fun document known => covers document ((Resolver.get_known files cache path).2 known)

/-- A scope that covers a cache covers what a look-up gives. -/
theorem Covers.get (covers : scope.Covers files cache) (path : Path) (document : Json)
    (given : (cache.get files path).1 = some document) : document.references ⊆ scope.texts :=
  covers document ((Resolver.get_known files cache path).1 document given)

/-- The document that a reference names is one of the scope. -/
theorem HoldsContext.enter (covers : scope.Covers files cache) {context : Resolver.Context}
    (held : scope.HoldsContext files context) (reference : Reference) (file : Path) (document : Json)
    (entered : (Resolver.enter files reference context cache).1 = some (file, document)) :
    scope.HoldsContext files ⟨file, some document⟩ := by
  unfold Resolver.enter at entered
  split at entered
  · split at entered
    · next own present =>
        cases entered
        exact ⟨held.place, fun _ same => Option.some.inj same ▸ held.texts document present⟩
    · obtain ⟨found, given, same⟩ := Option.map_eq_some_iff.mp entered
      cases same
      exact ⟨held.place, fun _ same =>
        Option.some.inj same ▸ covers.get context.file document given⟩
  · dsimp only at entered
    split at entered
    · cases entered
    · next target leads =>
        obtain ⟨found, given, same⟩ := Option.map_eq_some_iff.mp entered
        cases same
        exact ⟨.inr (files.canonical?_idem _ _ leads), fun _ same =>
          Option.some.inj same ▸ covers.get _ document given⟩

end Scope

/-- The scope of a run has the references of what the run can read. -/
theorem Resolver.scope_covers (files : FileSystem) (cache : DocumentCache) (file : Path)
    (given : List String) : (scope files cache file given).Covers files cache := by
  intro document known text held
  exact List.mem_append_right _ (List.mem_flatMap.mpr ⟨document, known, held⟩)

end ApiContract
