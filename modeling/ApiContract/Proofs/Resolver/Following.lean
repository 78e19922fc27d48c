import ApiContract.Proofs.Resolver.Reading
import ApiContract.Proofs.Resolver.Run
import ApiContract.Proofs.Traversal

/-
This file proves that a resolver follows a chain of references exactly: it gives the node at the end
of the chain, and nothing if the chain breaks off or never ends.
-/

namespace ApiContract

namespace Json

/-- Outer slashes of a pointer do not count. -/
theorem at?_congr (document : Json) {first second : String}
    (same : Text.trimMark '/' first = Text.trimMark '/' second) :
    document.at? first = document.at? second := by
  unfold at?
  rw [same]

end Json

namespace Reference

/-- A file of a reference is a relative path. -/
theorem isAbsolute_of_inFile (text file pointer : String)
    (read : ofString? text = some (.inFile file pointer)) :
    (⟨file⟩ : Path).isAbsolute = false := by
  unfold ofString? at read
  split at read
  · cases read
  · dsimp only at read
    split at read
    · next relative =>
        cases read
        simp only [isRelativeFile, Bool.and_eq_true, Bool.not_eq_true'] at relative
        exact relative.2
    · cases read

end Reference

namespace Library

/-- Whether a document is the one of a file on a chain: that of the first file, or that of a
canonical path. -/
def Keeps (library : Library) (origin : Reading) (file : Path) (document : Json) : Prop :=
  file = origin.file ∧ origin.document = some document ∨
    library.files.canonical? file = some file ∧ library.document? file = some document

/-- Whether the first file of a chain has no other document under a canonical spelling. -/
def Agrees (library : Library) (origin : Reading) : Prop :=
  ∀ key document, library.files.canonical? key = some key → key.same origin.file = true →
    origin.document = some document → library.document? key = some document

/-- Two references that a chain cannot tell apart. -/
structure Twin (first second : Reading) : Prop where
  text : first.text = second.text
  document : first.document = second.document
  same : first.file.same second.file = true
  spelled : first.file = second.file ∨ first.file.isAbsolute = true

variable {library : Library}

/-- A file on a chain has one document, whatever its spelling. -/
theorem Keeps.unique {origin : Reading} (agrees : library.Agrees origin) {file file' : Path}
    {document document' : Json} (kept : library.Keeps origin file document)
    (kept' : library.Keeps origin file' document') (same : file.same file' = true) :
    document = document' ∧ (file = file' ∨ file.isAbsolute = true) := by
  rcases kept with ⟨first, own⟩ | ⟨canonical, held⟩
  · rcases kept' with ⟨first', own'⟩ | ⟨canonical', held'⟩
    · exact ⟨Option.some.inj (own.symm.trans own'), .inl (first.trans first'.symm)⟩
    · have found := agrees file' document canonical' (by rw [← first, Path.same_comm, same]) own
      have absolute := library.files.canonical?_isAbsolute _ _ canonical'
      rw [← Path.isAbsolute_eq_of_same same] at absolute
      exact ⟨Option.some.inj (found.symm.trans held'), .inr absolute⟩
  · have absolute := library.files.canonical?_isAbsolute _ _ canonical
    rcases kept' with ⟨first', own'⟩ | ⟨canonical', held'⟩
    · have found := agrees file document' canonical (by rw [← first', same]) own'
      exact ⟨Option.some.inj (held.symm.trans found), .inr absolute⟩
    · obtain rfl := library.files.canonical?_eq_of_same canonical canonical' same
      exact ⟨Option.some.inj (held.symm.trans held'), .inl rfl⟩

/-- A reference in a document of a chain leads to a document of the chain. -/
theorem Keeps.land {origin reading : Reading} {landing : Landing}
    (kept : ∀ document, reading.document = some document →
      library.Keeps origin reading.file document)
    (lands : library.land? reading = some landing) :
    library.Keeps origin landing.file landing.document ∧
      landing.document.at? landing.pointer = some landing.value := by
  unfold land? at lands
  split at lands
  · cases lands
  · next reference read =>
      split at lands
      · cases lands
      · next file document entered =>
          obtain ⟨value, found, rfl⟩ := Option.map_eq_some_iff.mp lands
          refine ⟨?_, found⟩
          unfold enter? at entered
          split at entered
          · obtain ⟨own, held, same⟩ := Option.map_eq_some_iff.mp entered
            cases same
            exact kept document held
          · split at entered
            · cases entered
            · next target leads =>
                obtain ⟨given, held, same⟩ := Option.map_eq_some_iff.mp entered
                cases same
                exact .inr ⟨library.files.canonical?_idem _ _ leads, held⟩

/-- The files that are read from keep the documents that they give. -/
theorem keeps_reading? (origin reading : Reading) (count : Nat)
    (reached : library.reading? origin count = some reading) (document : Json)
    (held : reading.document = some document) : library.Keeps origin reading.file document := by
  induction count generalizing reading document with
  | zero =>
      cases reached
      exact .inl ⟨rfl, held⟩
  | succ count ih =>
      obtain ⟨before, earlier, onward⟩ := Option.bind_eq_some_iff.mp reached
      obtain ⟨landing, lands, next⟩ := Option.bind_eq_some_iff.mp onward
      obtain ⟨text, _, rfl⟩ := Option.map_eq_some_iff.mp next
      cases held
      exact (Keeps.land (fun document held => ih before earlier document held) lands).1

/-- Twin readings enter twin files with the same document. -/
theorem Twin.enter? {first second : Reading} (twin : Twin first second) (reference : Reference)
    (read : Reference.ofString? first.text = some reference) (file : Path) (document : Json)
    (entered : library.enter? first.file first.document reference = some (file, document)) :
    ∃ file', library.enter? second.file second.document reference = some (file', document) ∧
      file.same file' = true ∧ (file = file' ∨ file.isAbsolute = true) := by
  cases reference with
  | inDocument pointer =>
      obtain ⟨own, held, same⟩ := Option.map_eq_some_iff.mp entered
      cases same
      refine ⟨second.file, ?_, twin.same, twin.spelled⟩
      rw [Library.enter?, ← twin.document, held, Option.map_some]
  | inFile relative pointer =>
      have beside : library.files.canonical? ((first.file.parent?.getD ⟨"."⟩).join ⟨relative⟩) =
          library.files.canonical? ((second.file.parent?.getD ⟨"."⟩).join ⟨relative⟩) := by
        rcases twin.spelled with equal | absolute
        · rw [equal]
        · exact library.files.canonical?_beside first.file second.file ⟨relative⟩ absolute twin.same
            (Reference.isAbsolute_of_inFile _ _ _ read)
      refine ⟨file, ?_, file.same_refl, .inl rfl⟩
      rw [← entered]
      simp only [Library.enter?, beside]

/-- Where a chain goes on from a reference, it goes on from its twin. -/
theorem Twin.next {first second after : Reading} (twin : Twin first second) (landing : Landing)
    (lands : library.land? first = some landing) (next : landing.next? = some after) :
    ∃ landing' after', library.land? second = some landing' ∧ landing'.next? = some after' ∧
      Twin after after' := by
  obtain ⟨text, refers, rfl⟩ := Option.map_eq_some_iff.mp next
  unfold land? at lands
  split at lands
  · cases lands
  · next reference read =>
      split at lands
      · cases lands
      · next file document entered =>
          obtain ⟨value, found, rfl⟩ := Option.map_eq_some_iff.mp lands
          obtain ⟨file', entered', same, spelled⟩ := twin.enter? reference read file document entered
          refine ⟨⟨file', document, reference.pointer, value⟩, ⟨text, file', some document⟩, ?_, ?_,
            ⟨rfl, rfl, same, spelled⟩⟩
          · simp [land?, ← twin.text, read, entered', found]
          · simp only [Landing.next?, refers, Option.map_some]

/-- Twin readings lead to twin readings. -/
theorem Twin.reading? {first second : Reading} (twin : Twin first second) (count : Nat)
    (reading : Reading) (reached : library.reading? first count = some reading) :
    ∃ reading', library.reading? second count = some reading' ∧ Twin reading reading' := by
  induction count generalizing reading with
  | zero =>
      cases reached
      exact ⟨second, rfl, twin⟩
  | succ count ih =>
      obtain ⟨before, earlier, onward⟩ := Option.bind_eq_some_iff.mp reached
      obtain ⟨landing, lands, next⟩ := Option.bind_eq_some_iff.mp onward
      obtain ⟨before', earlier', alike⟩ := ih before earlier
      obtain ⟨landing', reading', lands', next', twin⟩ := alike.next landing lands next
      refine ⟨reading', ?_, twin⟩
      rw [Library.reading?, earlier', Option.bind_some, lands', Option.bind_some, next']

/-- A chain that comes back to a reference goes on for ever. -/
theorem Twin.endless {start again : Reading} (twin : Twin start again) (period : Nat)
    (returns : library.reading? start (period + 1) = some again) : library.Endless start := by
  have early (count : Nat) (before : count ≤ period + 1) :
      (library.reading? start count).isSome = true := by
    induction before using Nat.decreasingInduction with
    | of_succ count _ ih =>
        obtain ⟨reading, reached⟩ := Option.isSome_iff_exists.mp ih
        obtain ⟨before, earlier, _⟩ := Option.bind_eq_some_iff.mp reached
        rw [earlier, Option.isSome_some]
    | self => rw [returns, Option.isSome_some]
  intro count
  induction count using Nat.strong_induction_on with
  | _ count ih =>
      rcases Nat.lt_or_ge count (period + 1) with soon | late
      · exact early count soon.le
      · obtain ⟨more, rfl⟩ := Nat.exists_eq_add_of_le late
        obtain ⟨reading, reached⟩ := Option.isSome_iff_exists.mp (ih more (by omega))
        obtain ⟨reading', reached', _⟩ := twin.reading? more reading reached
        rw [library.reading?_add start again _ more returns, reached', Option.isSome_some]

variable {start after : Reading} {landing : Landing}

/-- A reading leads where its next one leads. -/
theorem Leads.before (lands : library.land? start = some landing) (next : landing.next? = some after)
    {resolved : Resolved} (leads : library.Leads after resolved) : library.Leads start resolved := by
  obtain ⟨count, reading, last, reached, rest⟩ := leads
  refine ⟨count + 1, reading, last, ?_, rest⟩
  rw [library.reading?_next start after landing lands next, reached]

/-- A reading fails if its next one does. -/
theorem Fails.before (lands : library.land? start = some landing) (next : landing.next? = some after)
    (fails : library.Fails after) : library.Fails start := by
  rcases fails with ⟨count, reading, reached, breaks⟩ | endless
  · refine .inl ⟨count + 1, reading, ?_, breaks⟩
    rw [library.reading?_next start after landing lands next, reached]
  · right
    intro count
    cases count with
    | zero => rfl
    | succ count => rw [library.reading?_next start after landing lands next, endless]

/-- A look-up leaves a cache explained. -/
theorem explains_get (library : Library) (path : Path) (cache : DocumentCache)
    (explained : library.Explains cache) : library.Explains (cache.get library.files path).2 :=
  explained.after_get path

/-- Whether a state of a resolver stands at a reference of a chain. -/
structure Mirrors (library : Library) (state : Resolver.ChainState) (reading : Reading) : Prop where
  explained : library.Explains state.cache
  text : state.text = reading.text
  file : state.context.file = reading.file
  document : state.context.document.or (state.cache.get library.files reading.file).1 =
    reading.document

/-- Whether a chain came by each of some targets before a reference. -/
def Past (library : Library) (origin : Reading) (targets : List Target) (reading : Reading) : Prop :=
  ∀ target ∈ targets, ∃ (landing : Landing) (after : Reading) (count : Nat),
    target = landing.target ∧
      library.Keeps origin landing.file landing.document ∧
        landing.document.at? landing.pointer = some landing.value ∧
          landing.next? = some after ∧ library.reading? after count = some reading

section

variable {state : Resolver.ChainState} {reading : Reading}

/-- A chain that mirrors a reading enters the document that the reading does. -/
theorem Mirrors.enter (mirrors : library.Mirrors state reading) (reference : Reference) :
    (Resolver.enter library.files reference state.context state.cache).1 =
      library.enter? reading.file reading.document reference := by
  cases reference with
  | inDocument pointer =>
      have own := mirrors.document
      simp only [Resolver.enter, enter?, mirrors.file]
      cases supplied : state.context.document with
      | none =>
          rw [supplied, Option.none_or] at own
          rw [← own]
      | some document =>
          rw [supplied, Option.some_or] at own
          rw [← own, Option.map_some]
  | inFile relative pointer =>
      simp only [Resolver.enter, enter?, mirrors.file]
      cases leads : library.files.canonical?
          ((reading.file.parent?.getD ⟨"."⟩).join ⟨relative⟩) with
      | none => rfl
      | some target =>
          have given := mirrors.explained.get target (library.settles_of_canonical leads)
          simp only [given]

/-- A state of a resolver and its reference lead to the same node. -/
theorem Mirrors.landing? (mirrors : library.Mirrors state reading) :
    Resolver.landing? library.files state = library.land? reading := by
  rw [Resolver.landing?, Library.land?, ← mirrors.text]
  cases Reference.ofString? state.text with
  | none => rfl
  | some reference =>
      rw [Option.bind_some, mirrors.enter reference]
      dsimp only
      cases library.enter? reading.file reading.document reference <;> rfl

/-- A chain that comes by a target again never ends. -/
theorem endless_of_met {origin : Reading} (agrees : library.Agrees origin)
    (past : library.Past origin state.chain reading) (landing : Landing)
    (kept : library.Keeps origin landing.file landing.document)
    (found : landing.document.at? landing.pointer = some landing.value)
    (lands : library.land? reading = some landing)
    (met : state.chain.any landing.target.same = true) :
    library.Endless reading := by
  obtain ⟨target, member, same⟩ := List.any_eq_true.mp met
  obtain ⟨earlier, after, count, rfl, kept', found', next, reached⟩ := past target member
  obtain ⟨sameFile, samePointer⟩ := (Target.same_iff _ _).mp same
  rw [Path.same_comm] at sameFile
  obtain ⟨document, spelled⟩ := kept'.unique agrees kept sameFile
  have value : earlier.value = landing.value := by
    rw [document, ← landing.document.at?_congr samePointer, found] at found'
    exact (Option.some.inj found').symm
  obtain ⟨text, refers, rfl⟩ := Option.map_eq_some_iff.mp next
  have twin : Twin ⟨text, earlier.file, some earlier.document⟩
      ⟨text, landing.file, some landing.document⟩ :=
    ⟨rfl, congrArg some document, sameFile, spelled⟩
  have again : landing.next? = some ⟨text, landing.file, some landing.document⟩ := by
    rw [Landing.next?, ← value, refers, Option.map_some]
  have endless := twin.endless count (by
    rw [reading?, reached, Option.bind_some, lands, Option.bind_some, again])
  intro more
  rw [← library.reading?_add _ reading count more reached]
  exact endless _

/-- What a resolver finds at the end of a chain, or why it finds nothing. -/
theorem outcome_of_follows {origin : Reading} (agrees : library.Agrees origin)
    {state : Resolver.ChainState} {resolved : Option Resolved} {cache : DocumentCache}
    (follows : Resolver.Follows library.files state resolved cache) {reading : Reading}
    (mirrors : library.Mirrors state reading) (past : library.Past origin state.chain reading)
    (kept : ∀ document, reading.document = some document →
      library.Keeps origin reading.file document) :
    (∀ found, resolved = some found → library.Leads reading found) ∧
      (resolved = none → library.Fails reading) := by
  induction follows generalizing reading with
  | finished state resolved cache step =>
      have shape := Resolver.chainStep_case library.files state
      rw [step] at shape
      cases shape with
      | nowhere cache lost =>
          rw [mirrors.landing?] at lost
          have breaks := (library.land?_eq_none reading).mp lost
          exact ⟨nofun, fun _ => .inl ⟨0, reading, rfl, breaks⟩⟩
      | repeated cache landing lands met =>
          rw [mirrors.landing?] at lands
          obtain ⟨keeps, found⟩ := Keeps.land kept lands
          have endless := endless_of_met agrees past landing keeps found lands met
          exact ⟨nofun, fun _ => .inr endless⟩
      | ends cache landing lands new concrete =>
          rw [mirrors.landing?] at lands
          refine ⟨?_, nofun⟩
          rintro _ ⟨⟩
          exact ⟨0, reading, landing, rfl, lands, concrete, rfl⟩
  | next state after resolved cache step rest ih =>
      have shape := Resolver.chainStep_case library.files state
      have explained := Resolver.chainStep_cache library.explains_get state mirrors.explained
      rw [step] at shape explained
      cases shape with
      | goesOn cache landing text lands new refers =>
          rw [mirrors.landing?] at lands
          obtain ⟨keeps, found⟩ := Keeps.land kept lands
          have next : landing.next? = some ⟨text, landing.file, some landing.document⟩ := by
            rw [Landing.next?, refers, Option.map_some]
          have onward : library.Past origin (landing.target :: state.chain)
              ⟨text, landing.file, some landing.document⟩ := by
            intro target member
            rcases List.mem_cons.mp member with rfl | member
            · exact ⟨landing, _, 0, rfl, keeps, found, next, rfl⟩
            · obtain ⟨earlier, after, count, same, kept, found, next', reached⟩ := past target member
              refine ⟨earlier, after, count + 1, same, kept, found, next', ?_⟩
              rw [reading?, reached, Option.bind_some, lands, Option.bind_some, next]
          obtain ⟨leads, fails⟩ := ih ⟨explained, rfl, rfl, rfl⟩ onward (by
            rintro _ ⟨⟩
            exact keeps)
          exact ⟨fun found same => (leads found same).before lands next,
            fun same => (fails same).before lands next⟩

end

/-- The cache of a library gives no other document for a spelling of a canonical path. -/
theorem Explains.agrees {cache : DocumentCache} (explained : library.Explains cache) (text : String)
    (file : Path) : library.Agrees ⟨text, file, (cache.get library.files file).1⟩ :=
  fun _ document canonical same given => explained.get_spelling canonical same document given

/-- What a chain from a reference ends with, or why it ends with nothing, whatever is cached. A given
document has to be the one of the file. -/
theorem Explains.outcome {cache after : DocumentCache} (explained : library.Explains cache)
    {text : String} {file : Path} {document : Option Json} {resolved : Option Resolved}
    (follows : Resolver.Follows library.files ⟨[], text, ⟨file, document⟩, cache⟩ resolved after)
    (supplied : ∀ given, document = some given → (cache.get library.files file).1 = some given) :
    (∀ found, resolved = some found →
        library.Leads ⟨text, file, (cache.get library.files file).1⟩ found) ∧
      (resolved = none → library.Fails ⟨text, file, (cache.get library.files file).1⟩) := by
  have mirrors : library.Mirrors ⟨[], text, ⟨file, document⟩, cache⟩
      ⟨text, file, (cache.get library.files file).1⟩ := by
    refine ⟨explained, rfl, rfl, ?_⟩
    cases document with
    | none => exact Option.none_or
    | some given => exact (supplied given rfl).symm
  exact outcome_of_follows (explained.agrees text file) follows mirrors nofun
    fun document held => .inl ⟨rfl, held⟩

/-- What a reference leads to without the document of its own file, it leads to with one. -/
theorem Leads.supply {file : Path} {text : String} {resolved : Resolved}
    (leads : library.Leads ⟨text, file, none⟩ resolved) (document : Option Json) :
    library.Leads ⟨text, file, document⟩ resolved := by
  have land {landing : Landing} (lands : library.land? ⟨text, file, none⟩ = some landing) :
      library.land? ⟨text, file, document⟩ = some landing := by
    unfold land? at lands ⊢
    generalize Reference.ofString? text = read at lands ⊢
    rcases read with _ | pointer | ⟨relative, pointer⟩
    · cases lands
    · cases lands
    · exact lands
  obtain ⟨count, reading, landing, reached, lands, concrete, same⟩ := leads
  cases count with
  | zero =>
      cases reached
      exact ⟨0, _, landing, rfl, land lands, concrete, same⟩
  | succ count =>
      rw [reading?_head] at reached
      obtain ⟨after, first, onward⟩ := Option.bind_eq_some_iff.mp reached
      obtain ⟨landing', lands', next⟩ := Option.bind_eq_some_iff.mp first
      exact Leads.before (land lands') next ⟨count, reading, landing, onward, lands, concrete, same⟩

/-- A resolver finds what a reference leads to, whatever it has cached. -/
theorem Explains.found {cache after : DocumentCache} (explained : library.Explains cache)
    {text : String} {file : Path} {resolved : Resolved} {outcome : Option Resolved}
    (leads : library.Leads ⟨text, file, library.document? file⟩ resolved)
    (follows : Resolver.Follows library.files ⟨[], text, ⟨file, none⟩, cache⟩ outcome after) :
    outcome = some resolved := by
  have own : library.Leads ⟨text, file, (cache.get library.files file).1⟩ resolved := by
    cases held : library.document? file with
    | none =>
        rw [held] at leads
        exact leads.supply _
    | some document => rwa [explained.get file (library.settles_of_document? held)]
  obtain ⟨finds, fails⟩ := explained.outcome follows nofun
  cases outcome with
  | none => exact absurd (fails rfl) (library.not_fails_of_leads _ resolved own)
  | some found => rw [library.leads_unique _ found resolved (finds found rfl) own]

end Library

namespace Resolver

open Library

/-- A resolver gives the node at the end of the chain that starts at a reference, and nothing
exactly when the chain breaks off or never ends. -/
theorem resolve_follows_chain (library : Library) (resolver : Resolver)
    (explained : library.Explains resolver.cache) (text : String) (file : Path)
    (document : Option Json)
    (supplied : ∀ given, document = some given →
      (resolver.cache.get library.files file).1 = some given) :
    (∀ resolved, (resolver.resolve library.files text file document).1 = some resolved ↔
        library.Leads ⟨text, file, (resolver.cache.get library.files file).1⟩ resolved) ∧
      (∀ resolved, (resolver.resolve library.files text file document).1 = some resolved →
        ∃ own, (resolver.cache.get library.files resolved.file).1 = some own ∧
          own.at? resolved.pointer = some resolved.value) ∧
      ((resolver.resolve library.files text file document).1 = none ↔
        library.Fails ⟨text, file, (resolver.cache.get library.files file).1⟩) := by
  obtain ⟨sound, fails⟩ := explained.outcome
    (follows_resolve library.files text file document resolver) supplied
  have complete (resolved : Resolved)
      (leads : library.Leads ⟨text, file, (resolver.cache.get library.files file).1⟩ resolved) :
      (resolver.resolve library.files text file document).1 = some resolved := by
    cases outcome : (resolver.resolve library.files text file document).1 with
    | none => exact absurd (fails outcome) (library.not_fails_of_leads _ resolved leads)
    | some found => rw [library.leads_unique _ found resolved (sound found outcome) leads]
  refine ⟨fun resolved => ⟨sound resolved, complete resolved⟩, ?_, ?_⟩
  · intro resolved outcome
    obtain ⟨count, reading, landing, reached, lands, _, rfl⟩ := sound resolved outcome
    obtain ⟨kept, found⟩ :=
      Keeps.land (library.keeps_reading? _ reading count reached) lands
    refine ⟨landing.document, ?_, found⟩
    rcases kept with ⟨first, own⟩ | ⟨canonical, held⟩
    · rw [Landing.resolved, first]
      exact own
    · rw [← held]
      exact explained.get landing.file (library.settles_of_canonical canonical)
  · refine ⟨fails, fun failed => ?_⟩
    cases outcome : (resolver.resolve library.files text file document).1 with
    | none => rfl
    | some found => exact absurd failed (library.not_fails_of_leads _ found (sound found outcome))

end Resolver

namespace CrossFile

open Library Resolver

/-- A reference into a file beside its own. -/
def first : Json := .object [("first", .object [("$ref", .string "b.json#/second")])]

/-- A reference that counts in this document, and what it names. -/
def second : Json :=
  .object [("second", .object [("$ref", .string "#/third/")]), ("third", .string "end")]

/-- Two files in the root directory, with documents in their places. -/
def library : Library where
  files := ⟨[(⟨"a.json", by decide⟩, .file []), (⟨"b.json", by decide⟩, .file [])], []⟩
  inserted := [(⟨"/a.json"⟩, first), (⟨"/b.json"⟩, second)]

def cache : DocumentCache := ⟨[(⟨"/a.json"⟩, some first), (⟨"/b.json"⟩, some second)]⟩

theorem canonical?_second : library.files.canonical? ⟨"/b.json"⟩ = some ⟨"/b.json"⟩ := by
  have stands : library.files.Stands ["b.json"] := ⟨.file [], by rfl, nofun⟩
  exact library.files.canonical?_pathOf ["b.json"] stands

/-- The reference into the second file lands at an alias. -/
theorem land?_second :
    library.land? ⟨"b.json#/second", ⟨"/a.json"⟩, some first⟩ =
      some ⟨⟨"/b.json"⟩, second, "/second", .object [("$ref", .string "#/third/")]⟩ := by
  have read : Reference.ofString? "b.json#/second" = some (.inFile "b.json" "/second") := by rfl
  have beside : ((⟨"/a.json"⟩ : Path).parent?.getD ⟨"."⟩).join ⟨"b.json"⟩ = ⟨"/b.json"⟩ := by rfl
  simp only [land?, read, enter?, beside, canonical?_second]
  rfl

/-- The reference leads through both files to a text. -/
theorem leads : library.Leads ⟨"#/first", ⟨"/a.json"⟩, some first⟩
    ⟨.string "end", ⟨"/b.json"⟩, "/third/"⟩ := by
  have last : library.Leads ⟨"#/third/", ⟨"/b.json"⟩, some second⟩
      ⟨.string "end", ⟨"/b.json"⟩, "/third/"⟩ :=
    ⟨0, _, ⟨⟨"/b.json"⟩, second, "/third/", .string "end"⟩, rfl, by rfl, rfl, rfl⟩
  have across := Leads.before land?_second (by rfl) last
  have landed : library.land? ⟨"#/first", ⟨"/a.json"⟩, some first⟩ =
      some ⟨⟨"/a.json"⟩, first, "/first", .object [("$ref", .string "b.json#/second")]⟩ := by
    rfl
  exact across.before landed (by rfl)

/-- A chain through two files ends at a node of the second. -/
theorem resolve_follows_chain_across_files :
    library.Explains cache ∧
      (cache.get library.files ⟨"/a.json"⟩).1 = some first ∧
        ((ofCache cache).resolve library.files "#/first" ⟨"/a.json"⟩ (some first)).1 =
          some ⟨.string "end", ⟨"/b.json"⟩, "/third/"⟩ := by
  have explained : library.Explains cache := explains_inserted library.files library.inserted
  have given : (cache.get library.files ⟨"/a.json"⟩).1 = some first := by rfl
  refine ⟨explained, given, ?_⟩
  have follows := resolve_follows_chain library (ofCache cache) explained "#/first" ⟨"/a.json"⟩
    (some first) (fun _ same => same ▸ given)
  exact (follows.1 _).mpr (given.symm ▸ leads)

end CrossFile

namespace SlashedFile

open DocumentCache Library Resolver

def files : FileSystem :=
  ⟨[(⟨"tag.json", by decide⟩, .file [123, 34, 120, 34, 58, 32, 49, 125])], []⟩

def document : Json := .object [("x", .integer 1)]

def library : Library := ⟨files, []⟩

/-- A spelling of the file that leads nowhere. -/
def path : Path := ⟨"/tag.json/"⟩

/-- A reference to a member of the file. -/
def node : Json := .object [("$ref", .string "#/x")]

/-- The cache after the file was read. -/
def warm : DocumentCache := (empty.get files ⟨"/tag.json"⟩).2

/-- The file is there under its own path. -/
theorem canonical?_file : files.canonical? ⟨"/tag.json"⟩ = some ⟨"/tag.json"⟩ :=
  files.canonical?_pathOf ["tag.json"] ⟨_, rfl, nofun⟩

theorem canonical?_path : files.canonical? path = none := by
  have located : files.locate path = .error .notADirectory := by
    change files.walk FileSystem.greatestLinkCount [] ["", "tag.json", ""] = .error .notADirectory
    rw [files.walk_blank _ [] "" _ rfl _ files.node?_nil,
      files.walk_name _ [] "tag.json" _ ⟨_, rfl, nofun⟩,
      files.walk_cons_error _ _ _ _ .notADirectory rfl]
  rw [FileSystem.canonical?, located]

/-- The file holds the document. -/
theorem load?_file : Document.load? files ⟨"/tag.json"⟩ = some document := by
  have decoded : Text.decodeUtf8 [123, 34, 120, 34, 58, 32, 49, 125] = .ok "\x7b\"x\": 1\x7d" :=
    eq_ok_of_toOption (by decide +kernel)
  have text : files.readText (FileSystem.pathOf ["tag.json"]) = .ok "\x7b\"x\": 1\x7d" :=
    FileSystem.readText_pathOf (by decide) rfl decoded
  have format : DocumentFormat.ofPath (FileSystem.pathOf ["tag.json"]) = .json := by decide +kernel
  have parsed : Document.parse "\x7b\"x\": 1\x7d" .json = .ok document := by rfl
  change Document.load? files (FileSystem.pathOf ["tag.json"]) = some document
  simp only [Document.load?, Document.read, text, format, parsed]
  rfl

/-- The cache holds the document under the canonical path. -/
theorem warm_eq : warm = ⟨[(⟨"/tag.json"⟩, some document)]⟩ := by
  have unknown : empty.entryOf? ⟨"/tag.json"⟩ = none := rfl
  rw [warm, DocumentCache.get, unknown, canonical?_file]
  dsimp only
  rw [load?_file]
  rfl

/-- Both caches hold nothing but what loading gives. -/
theorem explains : library.Explains empty ∧ library.Explains warm :=
  ⟨explains_empty files, (explains_empty files).after_get _⟩

/-- An empty cache finds nothing at the spelling. -/
theorem chainStep_cold :
    chainStep files ⟨[], "#/x", ⟨path, none⟩, empty⟩ = .finished none empty := by
  have missing : empty.get files path = (none, empty) := by
    rw [DocumentCache.get, canonical?_path]
    rfl
  have read : Reference.ofString? "#/x" = some (.inDocument "/x") := by decide +kernel
  simp only [chainStep, read, enter, missing]
  rfl

/-- A cache that has the file finds its document at the spelling. -/
theorem chainStep_warm : chainStep files ⟨[], "#/x", ⟨path, none⟩, warm⟩ =
    .finished (some ⟨.integer 1, path, "/x"⟩) warm := by
  rw [warm_eq]
  rfl

/-- Over the empty cache the reference is left and counted. -/
theorem resolveTree_cold (count : Nat) :
    (⟨empty, [], count⟩ : Resolver).resolveTree files node path =
      (node, ⟨empty, [], count + 1⟩) := by
  have unmarked : (node.member? recursiveMark).isSome = false := by rfl
  rw [resolveTree, resolveTreeWithin, replaceReferences_reference _ node "#/x" _ rfl]
  simp [targetBound, expandReference, resolveWithin, followChain, chainStep_cold, leave, unmarked]

/-- Over the other cache the member comes in its place. -/
theorem resolveTree_warm (count : Nat) :
    (⟨warm, [], count⟩ : Resolver).resolveTree files node path =
      (.integer 1, ⟨warm, [], count⟩) := by
  have unmarked : (node.member? recursiveMark).isSome = false := by rfl
  have leaf (expand : String → Json → Resolver → Json × Resolver) (resolver : Resolver) :
      replaceReferences expand (.integer 1) resolver = (.integer 1, resolver) := by
    rw [replaceReferences.eq_def]
    rfl
  rw [resolveTree, resolveTreeWithin, replaceReferences_reference _ node "#/x" _ rfl]
  simp [targetBound, expandReference, resolveWithin, followChain, chainStep_warm, leaf, unmarked,
    push, pop]

end SlashedFile

end ApiContract
