import ApiContract.ModuleIndex
import ApiContract.Proofs.Resolver.Agreement
import ApiContract.Proofs.Resolver.Leftover

/-
This file says which schema a body of a specification has, by resolvers that know nothing but the
specification, and proves that the one resolver of an index reads the same schemas, whatever it read
before. Its count grows by what those resolvers count.
-/

namespace ApiContract

namespace ModuleIndex

/-- The path of a specification, in the canonical form if there is one. -/
def home (files : FileSystem) (specPath : Path) : Path := (files.canonical? specPath).getD specPath

/-- The home of a specification is canonical, if it leads anywhere. -/
theorem canonical?_home (files : FileSystem) (specPath : Path) :
    (files.canonical? (home files specPath)).getD (home files specPath) = home files specPath := by
  unfold home
  cases found : files.canonical? specPath with
  | none => rw [Option.getD_none, found, Option.getD_none]
  | some key => rw [Option.getD_some, files.canonical?_idem specPath key found, Option.getD_some]

/-- The files with a specification in the place of its own. -/
def library (files : FileSystem) (specPath : Path) (spec : Json) : Library :=
  ⟨files, [(home files specPath, spec)]⟩

/-- A resolver that knows nothing but a specification. -/
def fresh (files : FileSystem) (specPath : Path) (spec : Json) : Resolver :=
  .ofCache (DocumentCache.empty.insert files (home files specPath) spec)

/-- The schema of a body of a specification, with its file. A body that is a reference is followed. -/
def schemaOf? (files : FileSystem) (specPath : Path) (spec body : Json) : Option (Json × Path) :=
  match body.reference? with
  | none => (contentSchema? body).map fun schema => (schema, home files specPath)
  | some text =>
      ((fresh files specPath spec).resolve files text (home files specPath) none).1.bind fun found =>
        (contentSchema? found.value).map fun schema => (schema, found.file)

/-- The resolved schema of a body of a specification. -/
def freshContent? (files : FileSystem) (specPath : Path) (spec body : Json) : Option Json :=
  (schemaOf? files specPath spec body).map fun (schema, file) =>
    ((fresh files specPath spec).resolveTree files schema file).1

/-- The number of references that are left in the schema of a body. -/
def freshCount (files : FileSystem) (specPath : Path) (spec body : Json) : Nat :=
  (schemaOf? files specPath spec body).elim 0 fun (schema, file) =>
    ((fresh files specPath spec).resolveTree files schema file).2.unresolved

/-- The media type that is chosen is one of the content. -/
theorem mem_of_jsonMedia? (content : List (String × Json)) (media : Json)
    (chosen : jsonMedia? content = some media) : ∃ key, (key, media) ∈ content := by
  unfold jsonMedia? at chosen
  cases named : content.lookup "application/json" with
  | some value =>
      rw [named] at chosen
      cases chosen
      exact ⟨_, Table.mem_of_lookup _ _ _ named⟩
  | none =>
      rw [named] at chosen
      obtain ⟨⟨key, value⟩, met, rfl⟩ := Option.map_eq_some_iff.mp chosen
      exact ⟨key, List.mem_of_find?_eq_some met⟩

/-- The schema of a body has no other references than the body. -/
theorem contentSchema?_references_subset (object schema : Json)
    (found : contentSchema? object = some schema) : schema.references ⊆ object.references := by
  obtain ⟨content, held, onward⟩ := Option.bind_eq_some_iff.mp found
  obtain ⟨members, shaped, onward⟩ := Option.bind_eq_some_iff.mp onward
  obtain ⟨media, chosen, last⟩ := Option.bind_eq_some_iff.mp onward
  have same : content = .object members := by
    cases content with
    | object => cases shaped; rfl
    | _ => cases shaped
  obtain ⟨key, member⟩ := mem_of_jsonMedia? members media chosen
  have above := object.member?_references_subset content _ held
  rw [same] at above
  exact List.Subset.trans (media.member?_references_subset schema _ last)
    (List.Subset.trans (Json.member_references_subset members key media member) above)

variable {files : FileSystem} {specPath : Path} {spec : Json}

/-- The library of an index has its specification at home. -/
theorem inserted?_library (files : FileSystem) (specPath : Path) (spec : Json) :
    (library files specPath spec).inserted? (home files specPath) = some spec := by
  simp [library, Library.inserted?, Path.same_refl]

/-- The home of a specification settles. -/
theorem settles_home (files : FileSystem) (specPath : Path) (spec : Json) :
    (library files specPath spec).Settles (home files specPath) :=
  .inl (by rw [inserted?_library, Option.isSome_some])

/-- A cache of what was loaded, with the specification inserted, is explained by the library. -/
theorem explains_insert (cache : DocumentCache) (explained : Library.Explains ⟨files, []⟩ cache) :
    (library files specPath spec).Explains (cache.insert files (home files specPath) spec) := by
  have after := explained.after_insert (home files specPath) spec
  rwa [canonical?_home] at after

/-- The library of an index explains the cache that it starts with. -/
theorem explains_fresh (files : FileSystem) (specPath : Path) (spec : Json) :
    (library files specPath spec).Explains (fresh files specPath spec).cache :=
  explains_insert _ (Library.explains_empty files)

/-- The documents that an index starts with are explained by the library. -/
theorem explains_startCache (files : FileSystem) (specPath : Path) (spec : Json)
    (modelsDirectory : String) :
    (library files specPath spec).Explains
      (startCache files (home files specPath) spec modelsDirectory) := by
  apply explains_insert
  split
  · exact Library.explains_empty files
  · exact (Library.explains_empty files).after_preload _

/-- A body that is a reference to nothing has no schema. -/
theorem schemaOf?_of_nowhere (body : Json) (text : String) (refers : body.reference? = some text)
    (nowhere : ∀ found, ¬(library files specPath spec).Leads ⟨text, home files specPath, some spec⟩
      found) : schemaOf? files specPath spec body = none := by
  have own : (library files specPath spec).document? (home files specPath) = some spec :=
    Library.document?_of_inserted _ _ _ (inserted?_library files specPath spec)
  obtain ⟨leads, -⟩ := Library.Explains.leads_of_follows (explains_fresh files specPath spec)
    (settles_home files specPath spec)
    (Resolver.follows_resolve files text (home files specPath) none (fresh files specPath spec))
  rw [schemaOf?, refers]
  dsimp only
  cases resolved :
      ((fresh files specPath spec).resolve files text (home files specPath) none).1 with
  | none => rfl
  | some found =>
      have led := leads found resolved
      rw [own] at led
      exact absurd led (nowhere found)

/-- What holds of the resolver of an index between two bodies. -/
structure Ready (files : FileSystem) (specPath : Path) (spec : Json) (scope : Scope)
    (resolver : Resolver) : Prop where
  idle : resolver.expanding = []
  explained : (library files specPath spec).Explains resolver.cache
  covers : scope.Covers files resolver.cache

/-- Whether a bound is enough for a scope that starts at the specification. -/
structure Fits (files : FileSystem) (specPath : Path) (scope : Scope) (bound : Nat) : Prop where
  start : scope.start = home files specPath
  enough : (scope.targets files).length < bound

variable {scope : Scope} {bound : Nat} {resolver : Resolver}

/-- Resolving a schema gives what a fresh resolver gives, counts what it counts, and leaves the resolver
ready. -/
theorem Ready.resolveTree (ready : Ready files specPath spec scope resolver)
    (fits : Fits files specPath scope bound) (schema : Json) (file : Path)
    (place : scope.HasPlace files file) (settled : (library files specPath spec).Settles file)
    (texts : schema.references ⊆ scope.texts) :
    let outcome := resolver.resolveTreeWithin files bound schema file
    let alone := (fresh files specPath spec).resolveTree files schema file
    outcome.1 = alone.1 ∧ Ready files specPath spec scope outcome.2 ∧
      outcome.2.unresolved = resolver.unresolved + alone.2.unresolved := by
  have runs := Scope.suffices_of_lt scope files bound bound fits.enough file [schema] resolver place
    (List.forall_mem_singleton.mpr texts) ⟨ready.covers, by rw [ready.idle]; exact ⟨nofun, .nil⟩⟩
    (by rw [ready.idle]; exact fits.enough)
  rw [Resolver.replaceInItems_singleton] at runs
  have alone := Resolver.runs_resolveTree files schema file (fresh files specPath spec) rfl
  have inStep := ready.explained.inStep (explains_fresh files specPath spec) settled
  obtain ⟨same, after, added, grown, grown'⟩ :=
    inStep.runs (.refl _) runs alone (.inl rfl) ready.idle
  refine ⟨List.head_eq_of_cons_eq same, ⟨runs.expanding.trans ready.idle, after.explained, ?_⟩, ?_⟩
  · exact runs.cache (scope.covers_get files) ready.covers
  · rw [grown', fresh, Resolver.ofCache, Nat.zero_add]
    exact grown

/-- Following a body gives what a fresh resolver gives, and leaves the resolver ready. -/
theorem Ready.resolve (ready : Ready files specPath spec scope resolver)
    (fits : Fits files specPath scope bound) (text : String) (given : text ∈ scope.texts) :
    let outcome := resolver.resolveWithin files bound text (home files specPath) none
    outcome.1 = ((fresh files specPath spec).resolve files text (home files specPath) none).1 ∧
      Ready files specPath spec scope outcome.2 ∧ outcome.2.unresolved = resolver.unresolved ∧
        ∀ found, outcome.1 = some found → scope.HoldsResolved files found ∧
          (library files specPath spec).Settles found.file := by
  intro outcome
  obtain ⟨follows, reached⟩ := Scope.follows_resolveWithin ready.covers text (home files specPath)
    none ⟨.inl fits.start.symm, nofun⟩ given bound fits.enough
  have alone := Resolver.follows_resolve files text (home files specPath) none
    (fresh files specPath spec)
  have settled := settles_home files specPath spec
  have inStep := ready.explained.inStep (explains_fresh files specPath spec) settled
  obtain ⟨same, after, -⟩ := inStep.follows (.refl _) (.inl rfl) follows alone
  refine ⟨same, ⟨ready.idle, after.explained, ?_⟩, rfl, ?_⟩
  · exact follows.cache (scope.covers_get files) ready.covers
  · intro found held
    have leads := (ready.explained.leads_of_follows settled follows).1 found held
    exact ⟨reached found held, Library.settles_of_leads _ _ _ _ settled found leads⟩

/-- The resolved schema of an object in a file. -/
def readObject (files : FileSystem) (bound : Nat) (object : Json) (file : Path)
    (resolver : Resolver) : Option Json × Resolver :=
  match contentSchema? object with
  | none => (none, resolver)
  | some schema =>
      let (schema, resolver) := resolver.resolveTreeWithin files bound schema file
      (some schema, resolver)

/-- A body that is no reference is read itself. -/
theorem readContent_of_concrete (files : FileSystem) (bound : Nat) (body : Json) (file : Path)
    (resolver : Resolver) (concrete : body.reference? = none) :
    readContent files bound body file resolver = readObject files bound body file resolver := by
  rw [readContent, concrete]
  rfl

/-- A body that is a reference is read where it leads. -/
theorem readContent_of_reference (files : FileSystem) (bound : Nat) (body : Json) (file : Path)
    (resolver : Resolver) (text : String) (refers : body.reference? = some text) :
    readContent files bound body file resolver =
      match resolver.resolveWithin files bound text file none with
      | (none, after) => (none, after)
      | (some found, after) => readObject files bound found.value found.file after := by
  rw [readContent, refers]
  dsimp only
  rcases resolver.resolveWithin files bound text file none with ⟨_ | found, after⟩ <;> rfl

/-- Reading an object gives what a fresh resolver gives for its schema, and counts what it counts. -/
theorem Ready.readObject (ready : Ready files specPath spec scope resolver)
    (fits : Fits files specPath scope bound) (object : Json) (file : Path)
    (place : scope.HasPlace files file) (settled : (library files specPath spec).Settles file)
    (texts : object.references ⊆ scope.texts) :
    let outcome := ModuleIndex.readObject files bound object file resolver
    let alone (schema : Json) := (fresh files specPath spec).resolveTree files schema file
    outcome.1 = (contentSchema? object).map (fun schema => (alone schema).1) ∧
      Ready files specPath spec scope outcome.2 ∧
        outcome.2.unresolved = resolver.unresolved +
          (contentSchema? object).elim 0 fun schema => (alone schema).2.unresolved := by
  dsimp only
  unfold ModuleIndex.readObject
  cases held : contentSchema? object with
  | none => exact ⟨rfl, ready, rfl⟩
  | some schema =>
      have inside := List.Subset.trans (contentSchema?_references_subset object schema held) texts
      obtain ⟨same, after, count⟩ := ready.resolveTree fits schema file place settled inside
      exact ⟨congrArg some same, after, count⟩

/-- Reading a body gives what fresh resolvers give, and counts what they count. -/
theorem Ready.readContent (ready : Ready files specPath spec scope resolver)
    (fits : Fits files specPath scope bound) (body : Json)
    (texts : body.references ⊆ scope.texts) :
    let outcome := ModuleIndex.readContent files bound body (home files specPath) resolver
    outcome.1 = freshContent? files specPath spec body ∧
      Ready files specPath spec scope outcome.2 ∧
        outcome.2.unresolved = resolver.unresolved + freshCount files specPath spec body := by
  dsimp only
  unfold freshContent? freshCount schemaOf?
  cases refers : body.reference? with
  | none =>
      rw [readContent_of_concrete files bound body _ resolver refers]
      obtain ⟨same, after, count⟩ := ready.readObject fits body (home files specPath)
        (.inl fits.start.symm) (settles_home files specPath spec) texts
      refine ⟨by rw [same, Option.map_map]; rfl, after, ?_⟩
      rw [count, Option.elim_map]
      rfl
  | some text =>
      rw [readContent_of_reference files bound body _ resolver text refers]
      obtain ⟨followed, after, count, reached⟩ :=
        ready.resolve fits text (texts (body.reference?_mem_references text refers))
      dsimp only
      rw [← followed]
      generalize resolver.resolveWithin files bound text (home files specPath) none = walk
        at followed after count reached
      rcases walk with ⟨_ | found, between⟩
      · exact ⟨rfl, after, count⟩
      · obtain ⟨held, settled⟩ := reached found rfl
        obtain ⟨same, ready', count'⟩ := Ready.readObject after fits found.value found.file
          held.target.place settled held.texts
        dsimp only at count
        rw [count] at count'
        refine ⟨by rw [same, Option.bind_some, Option.map_map]; rfl, ready', ?_⟩
        rw [count', Option.bind_some, Option.elim_map]
        rfl

/-- The schema of a body lies in the specification, or in a file with a canonical path. -/
theorem visits_schemaOf? (body schema : Json) (file : Path)
    (found : schemaOf? files specPath spec body = some (schema, file)) :
    (library files specPath spec).Visits (some (home files specPath)) file := by
  unfold schemaOf? at found
  split at found
  · obtain ⟨_, _, same⟩ := Option.map_eq_some_iff.mp found
    cases same
    exact .inl rfl
  · next text refers =>
      obtain ⟨resolved, led, inside⟩ := Option.bind_eq_some_iff.mp found
      obtain ⟨_, _, same⟩ := Option.map_eq_some_iff.mp inside
      cases same
      have follows := Resolver.follows_resolve files text (home files specPath) none
        (fresh files specPath spec)
      rcases follows.file resolved led with here | canonical
      · rw [here]
        exact .inl rfl
      · exact .inr canonical

/-- The file of a schema that a body has settles. -/
theorem settles_schemaOf? (body schema : Json) (file : Path)
    (found : schemaOf? files specPath spec body = some (schema, file)) :
    (library files specPath spec).Settles file := by
  refine (visits_schemaOf? body schema file found).settles ?_
  rintro start ⟨⟩
  exact settles_home files specPath spec

/-- The count of a body is above zero exactly if a reference is left in its schema. -/
theorem freshCount_pos_iff (files : FileSystem) (specPath : Path) (spec body : Json) :
    0 < freshCount files specPath spec body ↔
      ∃ schema file, schemaOf? files specPath spec body = some (schema, file) ∧
        (library files specPath spec).Leaves [] file schema := by
  unfold freshCount
  cases found : schemaOf? files specPath spec body with
  | none => simp
  | some read =>
      obtain ⟨schema, file⟩ := read
      have runs : Resolver.Runs (library files specPath spec).files _ file [schema] _ _ _ :=
        Resolver.runs_resolveTree files schema file (fresh files specPath spec) rfl
      have counts := Library.growsIf_of_runs runs (explains_fresh files specPath spec)
        (settles_schemaOf? body schema file found)
      refine counts.grows.trans ?_
      simp [fresh, Resolver.ofCache]

end ModuleIndex

end ApiContract
