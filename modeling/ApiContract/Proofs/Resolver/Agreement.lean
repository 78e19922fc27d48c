import ApiContract.Proofs.Resolver.Following
import ApiContract.Proofs.Resolver.Termination

/-
This file compares two runs of a resolver whose caches hold different entries. As long as both caches
answer by the same documents, the runs stay in step: they give the same results and leave the same
number of references, whatever was cached before.
-/

namespace ApiContract

namespace Resolver

variable {files : FileSystem} {state : ChainState}

/-- A link leads to the file that its reference is read in, or to a canonical path. -/
theorem landing?_file (landing : Landing) (lands : landing? files state = some landing) :
    landing.file = state.context.file ∨ files.canonical? landing.file = some landing.file := by
  obtain ⟨reference, _, onward⟩ := Option.bind_eq_some_iff.mp lands
  obtain ⟨⟨file, document⟩, entered, below⟩ := Option.bind_eq_some_iff.mp onward
  obtain ⟨value, _, rfl⟩ := Option.map_eq_some_iff.mp below
  unfold enter at entered
  split at entered
  · split at entered
    · cases entered
      exact .inl rfl
    · obtain ⟨_, _, same⟩ := Option.map_eq_some_iff.mp entered
      cases same
      exact .inl rfl
  · dsimp only at entered
    split at entered
    · cases entered
    · next target leads =>
        obtain ⟨_, _, same⟩ := Option.map_eq_some_iff.mp entered
        cases same
        exact .inr (files.canonical?_idem _ _ leads)

/-- A chain ends in the file that it starts in, or in a canonical path. -/
theorem Follows.file {resolved : Option Resolved} {cache : DocumentCache}
    (follows : Follows files state resolved cache) (found : Resolved)
    (same : resolved = some found) :
    found.file = state.context.file ∨ files.canonical? found.file = some found.file := by
  induction follows with
  | finished state resolved cache step =>
      subst same
      have shape := chainStep_case files state
      rw [step] at shape
      cases shape with
      | ends cache landing lands => exact landing?_file landing lands
  | next state after resolved cache step _ ih =>
      have shape := chainStep_case files state
      rw [step] at shape
      cases shape with
      | goesOn cache landing text lands =>
          rcases ih same with here | canonical
          · rw [here]
            exact landing?_file landing lands
          · exact .inr canonical

/-- What a run gives in the place of a reference without a mark, by what the reference leads to, and
how it goes on. -/
inductive Replaced (files : FileSystem) (allowed : List Target → Prop) (file : Path) (node : Json)
    (rest : List Json) (before : Resolver) (cache : DocumentCache) :
    Option Resolved → List Json → Resolver → Prop where
  | left (trees : List Json) (after : Resolver)
      (beside : Runs files allowed file rest (leave node { before with cache := cache }).2 trees
        after) :
      Replaced files allowed file node rest before cache none (node :: trees) after
  | marked (resolved : Resolved) (trees : List Json) (after : Resolver)
      (encloses : before.expanding.any (Target.ofPointer resolved.file resolved.pointer).same = true)
      (beside : Runs files allowed file rest (leave node { before with cache := cache }).2 trees
        after) :
      Replaced files allowed file node rest before cache (some resolved)
        ((Target.ofPointer resolved.file resolved.pointer).mark node :: trees) after
  | expanded (resolved : Resolved) (tree : Json) (trees : List Json) (between after : Resolver)
      (new : before.expanding.any (Target.ofPointer resolved.file resolved.pointer).same = false)
      (below : Runs files allowed resolved.file [resolved.value]
        (push (Target.ofPointer resolved.file resolved.pointer) { before with cache := cache })
        [tree] between)
      (beside : Runs files allowed file rest between.pop trees after) :
      Replaced files allowed file node rest before cache (some resolved) (tree :: trees) after

/-- A run over a reference that is not marked follows it first. -/
theorem Runs.replaced {allowed : List Target → Prop} {file : Path} {node : Json} {text : String}
    {rest trees : List Json} {before after : Resolver}
    (runs : Runs files allowed file (node :: rest) before trees after)
    (refers : node.reference? = some text)
    (unmarked : (node.member? recursiveMark).isSome = false) :
    ∃ resolved cache, Follows files ⟨[], text, ⟨file, none⟩, before.cache⟩ resolved cache ∧
      Replaced files allowed file node rest before cache resolved trees after := by
  cases runs with
  | inner | marked => simp_all
  | unresolved _ _ _ _ trees _ _ cache refers' _ follows beside =>
      cases refers.symm.trans refers'
      exact ⟨none, cache, follows, .left trees after beside⟩
  | enclosed _ _ _ resolved _ trees _ _ cache refers' _ follows encloses beside =>
      cases refers.symm.trans refers'
      exact ⟨some resolved, cache, follows, .marked resolved trees after encloses beside⟩
  | expanded _ _ tree _ resolved _ trees _ between _ cache refers' _ follows new _ below beside =>
      cases refers.symm.trans refers'
      exact ⟨some resolved, cache, follows,
        .expanded resolved tree trees between after new below beside⟩

end Resolver

namespace Library

/-- Whether two libraries find the same files, and have one document at each path. -/
structure Alike (first second : Library) : Prop where
  canonical? : ∀ path, first.files.canonical? path = second.files.canonical? path
  document? : ∀ path, first.document? path = second.document? path

theorem Alike.refl (library : Library) : library.Alike library := ⟨fun _ => rfl, fun _ => rfl⟩

/-- Whether a run may look a path up: the file that it starts in, if there is one, or a canonical
path. -/
def Visits (library : Library) (origin : Option Path) (path : Path) : Prop :=
  path ∈ origin ∨ library.files.canonical? path = some path

/-- Every visited path settles if the file of the start does. -/
theorem Visits.settles {library : Library} {origin : Option Path} {path : Path}
    (visits : library.Visits origin path) (settled : ∀ start ∈ origin, library.Settles start) :
    library.Settles path := by
  rcases visits with start | canonical
  · exact settled path start
  · exact library.settles_of_exists canonical

/-- Whether two caches are those of two libraries, and give one answer for the file that a run starts
in. -/
structure InStep (first second : Library) (origin : Option Path) (cache cache' : DocumentCache) :
    Prop where
  explained : first.Explains cache
  explained' : second.Explains cache'
  start : ∀ path ∈ origin,
    (cache.get first.files path).1 = (cache'.get second.files path).1

variable {first second : Library} {origin : Option Path} {cache cache' : DocumentCache}

/-- Caches of one library are in step from each file that settles. -/
theorem Explains.inStep {library : Library} (explained : library.Explains cache)
    (explained' : library.Explains cache') {file : Path} (settled : library.Settles file) :
    InStep library library (some file) cache cache' := by
  refine ⟨explained, explained', ?_⟩
  rintro path ⟨⟩
  rw [explained.get file settled, explained'.get file settled]

/-- Caches in step give one answer for each path that a run looks up, and stay in step. -/
theorem InStep.get (alike : first.Alike second) (inStep : InStep first second origin cache cache')
    (path : Path) (visits : first.Visits origin path) :
    (cache.get first.files path).1 = (cache'.get second.files path).1 ∧
      InStep first second origin (cache.get first.files path).2
        (cache'.get second.files path).2 := by
  have canonical' (canonical : first.files.canonical? path = some path) :
      second.files.canonical? path = some path := (alike.canonical? path).symm.trans canonical
  have same : (cache.get first.files path).1 = (cache'.get second.files path).1 := by
    rcases visits with start | canonical
    · exact inStep.start path start
    · rw [inStep.explained.get path (first.settles_of_exists canonical),
        inStep.explained'.get path (second.settles_of_exists (canonical' canonical)),
        alike.document?]
  refine ⟨same, inStep.explained.after_get path, inStep.explained'.after_get path, ?_⟩
  intro other member
  rcases visits with start | canonical
  · obtain rfl : path = other := Option.mem_unique start member
    rw [DocumentCache.get_again, DocumentCache.get_again, same]
  · cases spelled : path.same other with
    | false =>
        rw [DocumentCache.get_after_get _ _ _ _ canonical spelled,
          DocumentCache.get_after_get _ _ _ _ (canonical' canonical) spelled]
        exact inStep.start other member
    | true =>
        rw [DocumentCache.get_eq, DocumentCache.get_eq, ← DocumentCache.entryOf?_congr _ spelled,
          ← DocumentCache.entryOf?_congr _ spelled,
          DocumentCache.entryOf?_after_get _ _ _ canonical,
          DocumentCache.entryOf?_after_get _ _ _ (canonical' canonical), same]
        rfl

/-- In step, a reference enters the same document on both sides. -/
theorem InStep.enter (alike : first.Alike second) (inStep : InStep first second origin cache cache')
    (reference : Reference) (context : Resolver.Context)
    (visits : context.document = none → first.Visits origin context.file) :
    (Resolver.enter first.files reference context cache).1 =
        (Resolver.enter second.files reference context cache').1 ∧
      InStep first second origin (Resolver.enter first.files reference context cache).2
        (Resolver.enter second.files reference context cache').2 := by
  cases reference with
  | inDocument pointer =>
      simp only [Resolver.enter]
      cases held : context.document with
      | some document => exact ⟨rfl, inStep⟩
      | none =>
          obtain ⟨same, after⟩ := inStep.get alike context.file (visits held)
          exact ⟨by dsimp only; rw [same], after⟩
  | inFile relative pointer =>
      simp only [Resolver.enter, ← alike.canonical?]
      cases leads : first.files.canonical? ((context.file.parent?.getD ⟨"."⟩).join ⟨relative⟩) with
      | none => exact ⟨rfl, inStep⟩
      | some target =>
          obtain ⟨same, after⟩ :=
            inStep.get alike target (.inr (first.files.canonical?_idem _ _ leads))
          exact ⟨by dsimp only; rw [same], after⟩

/-- Whether two states of a chain differ in their caches only, and those are in step. -/
structure Parallel (first second : Library) (origin : Option Path)
    (state state' : Resolver.ChainState) : Prop where
  chain : state.chain = state'.chain
  text : state.text = state'.text
  context : state.context = state'.context
  visits : state.context.document = none → first.Visits origin state.context.file
  inStep : InStep first second origin state.cache state'.cache

/-- Whether two links of a chain give the same, up to caches in step. -/
inductive SameLink (first second : Library) (origin : Option Path) :
    Resolver.ChainStep → Resolver.ChainStep → Prop where
  | finished (resolved : Option Resolved) (cache cache' : DocumentCache)
      (inStep : InStep first second origin cache cache') :
      SameLink first second origin (.finished resolved cache) (.finished resolved cache')
  | next (state state' : Resolver.ChainState)
      (parallel : Parallel first second origin state state') :
      SameLink first second origin (.next state) (.next state')

/-- Parallel chains make the same link. -/
theorem Parallel.link (alike : first.Alike second) {state state' : Resolver.ChainState}
    (parallel : Parallel first second origin state state') :
    SameLink first second origin (Resolver.chainStep first.files state)
      (Resolver.chainStep second.files state') := by
  obtain ⟨chain, text, context, cache⟩ := state
  obtain ⟨chain', text', context', cache'⟩ := state'
  obtain ⟨rfl, rfl, rfl, visits, inStep⟩ := parallel
  simp only [Resolver.chainStep]
  cases Reference.ofString? text with
  | none => exact .finished none cache cache' inStep
  | some reference =>
      obtain ⟨same, after⟩ := inStep.enter alike reference context visits
      dsimp only
      generalize Resolver.enter first.files reference context cache = entered at same after
      generalize Resolver.enter second.files reference context cache' = entered' at same after
      obtain ⟨place, between⟩ := entered
      obtain ⟨place', between'⟩ := entered'
      dsimp only at same after ⊢
      subst same
      rcases place with _ | ⟨file, document⟩
      · exact .finished none _ _ after
      · dsimp only
        cases document.at? reference.pointer with
        | none => exact .finished none _ _ after
        | some node =>
            dsimp only
            split
            · exact .finished none _ _ after
            · cases node.reference? with
              | none => exact .finished _ _ _ after
              | some text => exact .next _ _ ⟨rfl, rfl, rfl, fun absent => absurd absent (by simp), after⟩

/-- Chains in parallel end at the same node. -/
theorem Parallel.follows (alike : first.Alike second) {state state' : Resolver.ChainState}
    {resolved resolved' : Option Resolved} {cache cache' : DocumentCache}
    (parallel : Parallel first second origin state state')
    (follows : Resolver.Follows first.files state resolved cache)
    (follows' : Resolver.Follows second.files state' resolved' cache') :
    resolved = resolved' ∧ InStep first second origin cache cache' := by
  induction follows generalizing state' with
  | finished state resolved cache step =>
      have link := parallel.link alike
      cases follows' with
      | finished _ _ _ step' =>
          rw [step, step'] at link
          cases link with
          | finished _ _ _ inStep => exact ⟨rfl, inStep⟩
      | next _ _ _ _ step' =>
          rw [step, step'] at link
          cases link
  | next state after resolved cache step _ ih =>
      have link := parallel.link alike
      cases follows' with
      | finished _ _ _ step' =>
          rw [step, step'] at link
          cases link
      | next _ _ _ _ step' rest' =>
          rw [step, step'] at link
          cases link with
          | next _ _ onward => exact ih onward rest'

/-- Whether two counts grow by the same number. -/
def GrowTogether (before after before' after' : Nat) : Prop :=
  ∃ added, after = before + added ∧ after' = before' + added

/-- Counts that grow together twice do so once. -/
theorem GrowTogether.trans {before between after before' between' after' : Nat}
    (early : GrowTogether before between before' between')
    (late : GrowTogether between after between' after') :
    GrowTogether before after before' after' := by
  obtain ⟨some, rfl, rfl⟩ := early
  obtain ⟨more, rfl, rfl⟩ := late
  exact ⟨some + more, Nat.add_assoc .., Nat.add_assoc ..⟩

/-- Counts that both grow by one grow together. -/
theorem GrowTogether.step (before before' : Nat) :
    GrowTogether before (before + 1) before' (before' + 1) := ⟨1, rfl, rfl⟩

/-- In step, a reference that is followed gives the same result on both sides. -/
theorem InStep.follows (alike : first.Alike second)
    (inStep : InStep first second origin cache cache') {file : Path}
    (visits : first.Visits origin file) {text : String} {resolved resolved' : Option Resolved}
    {after after' : DocumentCache}
    (follows : Resolver.Follows first.files ⟨[], text, ⟨file, none⟩, cache⟩ resolved after)
    (follows' : Resolver.Follows second.files ⟨[], text, ⟨file, none⟩, cache'⟩ resolved' after') :
    resolved = resolved' ∧ InStep first second origin after after' ∧
      ∀ found, resolved = some found → first.Visits origin found.file := by
  have parallel : Parallel first second origin ⟨[], text, ⟨file, none⟩, cache⟩
      ⟨[], text, ⟨file, none⟩, cache'⟩ := ⟨rfl, rfl, rfl, fun _ => visits, inStep⟩
  obtain ⟨same, onward⟩ := parallel.follows alike follows follows'
  refine ⟨same, onward, fun found given => ?_⟩
  rcases follows.file found given with here | canonical
  · rw [here]
    exact visits
  · exact .inr canonical

/-- Runs over the same trees with caches in step give the same trees, and count the same. -/
theorem InStep.runs (alike : first.Alike second) {allowed allowed' : List Target → Prop}
    {file : Path} {forest trees trees' : List Json} {before after before' after' : Resolver}
    (runs : Resolver.Runs first.files allowed file forest before trees after)
    (runs' : Resolver.Runs second.files allowed' file forest before' trees' after')
    (visits : first.Visits origin file) (same : before.expanding = before'.expanding)
    (inStep : InStep first second origin before.cache before'.cache) :
    trees = trees' ∧ InStep first second origin after.cache after'.cache ∧
      GrowTogether before.unresolved after.unresolved before'.unresolved after'.unresolved := by
  induction runs generalizing trees' before' after' with
  | done =>
      cases runs'
      exact ⟨rfl, inStep, 0, rfl, rfl⟩
  | inner file node rest trees others before between after concrete below beside ihBelow ihBeside =>
      cases runs' with
      | inner _ _ _ trees' others' _ between' _ _ below' beside' =>
          obtain ⟨rfl, inside, early⟩ := ihBelow below' visits same inStep
          obtain ⟨rfl, onward, late⟩ := ihBeside beside' visits
            (by rw [below.expanding, below'.expanding, same]) inside
          exact ⟨rfl, onward, early.trans late⟩
      | _ => simp_all
  | marked file node text rest trees before after refers mark beside ih =>
      cases runs' with
      | marked _ _ _ _ _ _ _ _ _ beside' =>
          obtain ⟨rfl, onward, late⟩ := ih beside' visits same inStep
          exact ⟨rfl, onward, (GrowTogether.step _ _).trans late⟩
      | _ => simp_all
  | unresolved file node text rest trees before after cache refers unmarked follows beside ih =>
      obtain ⟨resolved', cache', follows', replaced⟩ := runs'.replaced refers unmarked
      obtain ⟨rfl, between, -⟩ := inStep.follows alike visits follows follows'
      cases replaced with
      | left _ _ beside' =>
          obtain ⟨rfl, onward, late⟩ := ih beside' visits same between
          exact ⟨rfl, onward, (GrowTogether.step _ _).trans late⟩
  | enclosed file node text resolved rest trees before after cache refers unmarked follows encloses
      beside ih =>
      obtain ⟨resolved', cache', follows', replaced⟩ := runs'.replaced refers unmarked
      obtain ⟨rfl, between, -⟩ := inStep.follows alike visits follows follows'
      cases replaced with
      | marked _ _ _ _ beside' =>
          obtain ⟨rfl, onward, late⟩ := ih beside' visits same between
          exact ⟨rfl, onward, (GrowTogether.step _ _).trans late⟩
      | expanded _ _ _ _ _ new =>
          rw [← same, encloses] at new
          cases new
  | expanded file node tree text resolved rest trees before between after cache refers unmarked
      follows new fits below beside ihBelow ihBeside =>
      obtain ⟨resolved', cache', follows', replaced⟩ := runs'.replaced refers unmarked
      obtain ⟨rfl, entered, reached⟩ := inStep.follows alike visits follows follows'
      cases replaced with
      | marked _ _ _ encloses =>
          rw [← same, new] at encloses
          cases encloses
      | expanded _ tree' _ between' _ _ below' beside' =>
          obtain ⟨alikeTree, inside, early⟩ := ihBelow below' (reached resolved rfl)
            (by rw [Resolver.push, Resolver.push, same]) entered
          cases alikeTree
          obtain ⟨rfl, onward, late⟩ := ihBeside beside' visits
            (by rw [Resolver.pop, Resolver.pop, below.expanding, below'.expanding, Resolver.push,
              Resolver.push, same]) inside
          exact ⟨rfl, onward, early.trans late⟩

/-- A chain has one outcome: the node that it leads to, or nothing if it leads to none. -/
theorem outcome_unique (library : Library) {reading : Reading} {resolved resolved' : Option Resolved}
    (leads : ∀ found, resolved = some found → library.Leads reading found)
    (fails : resolved = none → library.Fails reading)
    (leads' : ∀ found, resolved' = some found → library.Leads reading found)
    (fails' : resolved' = none → library.Fails reading) : resolved = resolved' := by
  cases resolved with
  | none =>
      cases resolved' with
      | none => rfl
      | some found =>
          exact absurd (fails rfl) (library.not_fails_of_leads _ found (leads' found rfl))
  | some found =>
      cases resolved' with
      | none => exact absurd (fails' rfl) (library.not_fails_of_leads _ found (leads found rfl))
      | some found' => rw [library.leads_unique _ found found' (leads found rfl) (leads' found' rfl)]

end Library

namespace Resolver

open Library

variable {first second : Library} {origin : Option Path} {resolver resolver' : Resolver}

/-- Resolvers whose caches are in step find the same at the end of a chain. -/
theorem resolve_inStep (alike : first.Alike second)
    (inStep : InStep first second origin resolver.cache resolver'.cache) (text : String)
    (file : Path) (document : Option Json) (visits : document = none → first.Visits origin file) :
    (resolver.resolve first.files text file document).1 =
      (resolver'.resolve second.files text file document).1 := by
  have parallel : Parallel first second origin ⟨[], text, ⟨file, document⟩, resolver.cache⟩
      ⟨[], text, ⟨file, document⟩, resolver'.cache⟩ := ⟨rfl, rfl, rfl, visits, inStep⟩
  exact (parallel.follows alike (follows_resolve first.files text file document resolver)
    (follows_resolve second.files text file document resolver')).1

/-- Resolvers whose caches are in step give the same tree, and count the same. -/
theorem resolveTree_inStep (alike : first.Alike second) (idle : resolver.expanding = [])
    (idle' : resolver'.expanding = [])
    (inStep : InStep first second origin resolver.cache resolver'.cache) (node : Json) (file : Path)
    (visits : first.Visits origin file) :
    (resolver.resolveTree first.files node file).1 =
        (resolver'.resolveTree second.files node file).1 ∧
      GrowTogether resolver.unresolved (resolver.resolveTree first.files node file).2.unresolved
        resolver'.unresolved (resolver'.resolveTree second.files node file).2.unresolved := by
  have runs := runs_resolveTree first.files node file resolver idle
  have runs' := runs_resolveTree second.files node file resolver' idle'
  obtain ⟨same, -, counts⟩ := inStep.runs alike runs runs' visits (idle.trans idle'.symm)
  exact ⟨List.head_eq_of_cons_eq same, counts⟩

/-- What fills a cache: a document that is looked up, a directory that is read, or a call of a resolver
over the cache. -/
inductive Use where
  | get (path : Path)
  | preload (directory : Path)
  | call (call : Call)

def use (files : FileSystem) (cache : DocumentCache) : Use → DocumentCache
  | .get path => (cache.get files path).2
  | .preload directory => (cache.preload files directory).2
  | .call call => ((ofCache cache).serveCall files call).cache

/-- A cache stays explained by the library, whatever it is used for. -/
theorem explains_uses {library : Library} {cache : DocumentCache}
    (explained : library.Explains cache) (uses : List Use) :
    library.Explains (uses.foldl (use library.files) cache) := by
  induction uses generalizing cache with
  | nil => exact explained
  | cons next rest ih =>
      apply ih
      cases next with
      | get path => exact explained.after_get path
      | preload directory => exact explained.after_preload directory
      | call call => exact serve_cache library.explains_get [call] (ofCache cache) rfl explained

/-- Caches that a library explains answer alike for each file that settles, and resolvers over them
then give the same results and counts. -/
theorem resolution_ignores_cached_documents (library : Library) (cache cache' : DocumentCache)
    (explained : library.Explains cache) (explained' : library.Explains cache') :
    (∀ file, library.Settles file →
        (cache.get library.files file).1 = (cache'.get library.files file).1) ∧
      -- A supplied document spares the look-up of the file.
      (∀ (count count' : Nat) (text : String) (file : Path) (document : Option Json),
        (document = none →
            (cache.get library.files file).1 = (cache'.get library.files file).1) →
          ((⟨cache, [], count⟩ : Resolver).resolve library.files text file document).1 =
            ((⟨cache', [], count'⟩ : Resolver).resolve library.files text file document).1) ∧
      (∀ (count count' : Nat) (node : Json) (file : Path),
        (cache.get library.files file).1 = (cache'.get library.files file).1 →
          let outcome := (⟨cache, [], count⟩ : Resolver).resolveTree library.files node file
          let outcome' := (⟨cache', [], count'⟩ : Resolver).resolveTree library.files node file
          outcome.1 = outcome'.1 ∧
            GrowTogether count outcome.2.unresolved count' outcome'.2.unresolved) ∧
      (∀ (count : Nat) (text : String) (file : Path) (document : Json),
        (cache.get library.files file).1 = some document →
          ((⟨cache, [], count⟩ : Resolver).resolve library.files text file (some document)).1 =
            ((⟨cache, [], count⟩ : Resolver).resolve library.files text file none).1) ∧
      ∀ uses : List Use, library.Explains (uses.foldl (use library.files) cache) := by
  have together (origin : Option Path) (same : ∀ path ∈ origin,
      (cache.get library.files path).1 = (cache'.get library.files path).1) :
      InStep library library origin cache cache' := ⟨explained, explained', same⟩
  refine ⟨?_, ?_, ?_, ?_, explains_uses explained⟩
  · intro file settled
    rw [explained.get file settled, explained'.get file settled]
  · intro count count' text file document same
    cases document with
    | none =>
        have inStep := together (some file) (by simpa using same rfl)
        exact resolve_inStep (.refl library) inStep text file none fun _ => .inl rfl
    | some document =>
        exact resolve_inStep (.refl library) (together none nofun) text file (some document) nofun
  · intro count count' node file same
    have inStep := together (some file) (by simpa using same)
    exact resolveTree_inStep (.refl library) rfl rfl inStep node file (.inl rfl)
  · intro count text file document held
    let resolver : Resolver := ⟨cache, [], count⟩
    obtain ⟨leads, fails⟩ := explained.outcome
      (follows_resolve library.files text file (some document) resolver)
      fun given same => by cases same; exact held
    obtain ⟨leads', fails'⟩ := explained.outcome
      (follows_resolve library.files text file none resolver) nofun
    exact library.outcome_unique leads fails leads' fails'

end Resolver

namespace WarmCache

open Library Resolver

/-- Three files, of which the third has no document in its place and cannot be read. -/
def library : Library where
  files := ⟨CrossFile.library.files.tree ++ [(⟨"c.json", by decide⟩, .file [])], []⟩
  inserted := CrossFile.library.inserted

def cold : DocumentCache := CrossFile.cache

/-- The cache after the directory was read, and a chain and a tree were followed. -/
def warm : DocumentCache :=
  [Use.preload ⟨"/"⟩, .call (.resolve "c.json#/gone" ⟨"/a.json"⟩ none),
    .call (.resolveTree CrossFile.first ⟨"/a.json"⟩)].foldl (use library.files) cold

/-- A cache that was used before answers as it did at first, also for a document that is supplied. -/
theorem warm_cache_answers_alike :
    let early : Resolver := ⟨cold, [], 0⟩
    let late : Resolver := ⟨warm, [], 2⟩
    library.Explains cold ∧ library.Explains warm ∧
      (cold.get library.files ⟨"/a.json"⟩).1 = some CrossFile.first ∧
        (warm.get library.files ⟨"/a.json"⟩).1 = some CrossFile.first ∧
          (early.resolve library.files "#/first" ⟨"/a.json"⟩ (some CrossFile.first)).1 =
              (late.resolve library.files "#/first" ⟨"/a.json"⟩ none).1 ∧
            (early.resolveTree library.files CrossFile.first ⟨"/a.json"⟩).1 =
              (late.resolveTree library.files CrossFile.first ⟨"/a.json"⟩).1 := by
  intro early late
  have explained : library.Explains cold := explains_inserted library.files library.inserted
  have explained' : library.Explains warm := explains_uses explained _
  obtain ⟨looks, chains, trees, supplied, -⟩ :=
    resolution_ignores_cached_documents library cold warm explained explained'
  have settled : library.Settles ⟨"/a.json"⟩ :=
    library.settles_of_endsInName ⟨"/a.json"⟩ (by rfl)
  have held : (cold.get library.files ⟨"/a.json"⟩).1 = some CrossFile.first := by rfl
  have same := looks ⟨"/a.json"⟩ settled
  refine ⟨explained, explained', held, same ▸ held, ?_, ?_⟩
  · exact (supplied 0 "#/first" ⟨"/a.json"⟩ CrossFile.first held).trans
      (chains 0 2 "#/first" ⟨"/a.json"⟩ none fun _ => same)
  · exact (trees 0 2 CrossFile.first ⟨"/a.json"⟩ same).1

end WarmCache

namespace SlashedFile

open DocumentCache Library Resolver

/-- At a spelling that leads nowhere, two caches of what loading gives differ in every answer. -/
theorem resolution_finds_cached_file :
    let early : Resolver := ⟨empty, [], 0⟩
    let late : Resolver := ⟨warm, [], 0⟩
    (library.Explains empty ∧ library.Explains warm) ∧
      (early.resolve library.files "#/x" path none).1 = none ∧
        (late.resolve library.files "#/x" path none).1 = some ⟨.integer 1, path, "/x"⟩ ∧
          early.resolveTree library.files node path = (node, ⟨empty, [], 1⟩) ∧
            late.resolveTree library.files node path = (.integer 1, ⟨warm, [], 0⟩) := by
  intro early late
  have link : library.files = files := rfl
  refine ⟨explains, ?_, ?_, resolveTree_cold 0, resolveTree_warm 0⟩
  · simp [early, link, resolve, resolveWithin, targetBound, followChain, chainStep_cold]
  · simp [late, link, resolve, resolveWithin, targetBound, followChain, chainStep_warm]

end SlashedFile

end ApiContract
