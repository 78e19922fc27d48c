import ApiContract.Proofs.Resolver.Scope

/-
This file proves that every chain of references ends. The targets on a chain are distinct and lie in
a finite scope, so the bound on a chain is never met.
-/

namespace ApiContract

/-- Targets are the same if their files are spelled the same and their pointers are equal. -/
theorem Target.same_iff (first second : Target) :
    first.same second = true ↔
      first.file.same second.file = true ∧ first.pointer = second.pointer := by
  rw [same, Bool.and_eq_true, beq_iff_eq]

theorem Target.same_refl (target : Target) : target.same target = true :=
  (same_iff target target).mpr ⟨target.file.same_refl, rfl⟩

/-- Whether no target is there twice, under whatever spelling of its file. -/
def Target.Distinct (targets : List Target) : Prop :=
  targets.Pairwise fun first second => first.same second = false

/-- A target is distinct from others if none of them is the same. -/
theorem Target.distinct_cons (target : Target) (targets : List Target) :
    Distinct (target :: targets) ↔ targets.any target.same = false ∧ Distinct targets := by
  rw [Distinct, List.pairwise_cons, List.any_eq_false]
  simp [Distinct]

/-- A node that a reference leads to, and where it is. -/
structure Landing where
  file : Path
  document : Json
  pointer : String
  value : Json

namespace Landing

def resolved (landing : Landing) : Resolved := ⟨landing.value, landing.file, landing.pointer⟩

def target (landing : Landing) : Target := .ofPointer landing.file landing.pointer

end Landing

namespace Resolver

/-- The node that the reference of a state leads to. -/
def landing? (files : FileSystem) (state : ChainState) : Option Landing :=
  (Reference.ofString? state.text).bind fun reference =>
    (enter files reference state.context state.cache).1.bind fun place =>
      (place.2.at? reference.pointer).map fun value =>
        ⟨place.1, place.2, reference.pointer, value⟩

/-- What a link does, case by case. -/
inductive LinkCase (files : FileSystem) (state : ChainState) : ChainStep → Prop where
  | nowhere (cache : DocumentCache) (lost : landing? files state = none) :
      LinkCase files state (.finished none cache)
  | repeated (cache : DocumentCache) (landing : Landing)
      (lands : landing? files state = some landing)
      (met : state.chain.any landing.target.same = true) :
      LinkCase files state (.finished none cache)
  | ends (cache : DocumentCache) (landing : Landing) (lands : landing? files state = some landing)
      (new : state.chain.any landing.target.same = false)
      (concrete : landing.value.reference? = none) :
      LinkCase files state (.finished (some landing.resolved) cache)
  | goesOn (cache : DocumentCache) (landing : Landing) (text : String)
      (lands : landing? files state = some landing)
      (new : state.chain.any landing.target.same = false)
      (refers : landing.value.reference? = some text) :
      LinkCase files state (.next ⟨landing.target :: state.chain, text,
        ⟨landing.file, some landing.document⟩, cache⟩)

/-- A step of a chain is one of the cases of a link. -/
theorem chainStep_case (files : FileSystem) (state : ChainState) :
    LinkCase files state (chainStep files state) := by
  unfold chainStep
  split
  · next unread => exact .nowhere _ (by rw [landing?, unread, Option.bind_none])
  · next reference read =>
      split
      · next cache missing =>
          exact .nowhere _ (by rw [landing?, read, Option.bind_some, missing, Option.bind_none])
      · next file document cache entered =>
          have at? : landing? files state = (document.at? reference.pointer).map fun value =>
              ⟨file, document, reference.pointer, value⟩ := by
            rw [landing?, read, Option.bind_some, entered, Option.bind_some]
          split
          · next missing => exact .nowhere _ (by rw [at?, missing, Option.map_none])
          · next node found =>
              have lands : landing? files state =
                  some ⟨file, document, reference.pointer, node⟩ := by
                rw [at?, found, Option.map_some]
              dsimp only
              split
              · next met => exact .repeated cache _ lands met
              · next new =>
                  have new := Bool.eq_false_iff.mpr new
                  split
                  · next concrete => exact .ends cache _ lands new concrete
                  · next text refers => exact .goesOn cache _ text lands new refers

/-- The documents that are known after a link. -/
def ChainStep.cache : ChainStep → DocumentCache
  | .finished _ cache => cache
  | .next state => state.cache

/-- What every look-up keeps, a link keeps. -/
theorem chainStep_cache {files : FileSystem} {property : DocumentCache → Prop}
    (gets : ∀ path cache, property cache → property (cache.get files path).2) (state : ChainState)
    (held : property state.cache) : property (chainStep files state).cache := by
  unfold chainStep
  split
  · exact held
  · next reference _ =>
      have entered := enter_cache gets reference state.context state.cache held
      split
      · next missing =>
          rw [missing] at entered
          exact entered
      · next present =>
          rw [present] at entered
          dsimp only at entered ⊢
          split
          · exact entered
          · split
            · exact entered
            · split <;> exact entered

/-- The state of a chain after a number of links. -/
def chainState? (files : FileSystem) (start : ChainState) : Nat → Option ChainState
  | 0 => some start
  | count + 1 =>
      (chainState? files start count).bind fun state =>
        match chainStep files state with
        | .next state => some state
        | .finished _ _ => none

/-- Whether a chain ends with a result. -/
inductive Follows (files : FileSystem) :
    ChainState → Option Resolved → DocumentCache → Prop where
  | finished (state : ChainState) (resolved : Option Resolved) (cache : DocumentCache)
      (step : chainStep files state = .finished resolved cache) : Follows files state resolved cache
  | next (state after : ChainState) (resolved : Option Resolved) (cache : DocumentCache)
      (step : chainStep files state = .next after)
      (rest : Follows files after resolved cache) : Follows files state resolved cache

/-- What every look-up keeps, a chain keeps. -/
theorem Follows.cache {files : FileSystem} {property : DocumentCache → Prop}
    (gets : ∀ path cache, property cache → property (cache.get files path).2) {state : ChainState}
    {resolved : Option Resolved} {cache : DocumentCache}
    (follows : Follows files state resolved cache) (held : property state.cache) :
    property cache := by
  induction follows with
  | finished state resolved cache step =>
      have kept := chainStep_cache gets state held
      rw [step] at kept
      exact kept
  | next state after resolved cache step _ ih =>
      have kept := chainStep_cache gets state held
      rw [step] at kept
      exact ih kept

end Resolver

namespace Scope

open Resolver

/-- What holds of every state of a chain: the chain has distinct targets of the scope, and the scope
has what the next link reads. -/
structure HoldsChain (scope : Scope) (files : FileSystem) (state : ChainState) : Prop where
  covers : scope.Covers files state.cache
  context : scope.HoldsContext files state.context
  text : state.text ∈ scope.texts
  within : ∀ target ∈ state.chain, scope.Has files target
  distinct : Target.Distinct state.chain

/-- What a resolved reference leads to lies in the scope. -/
structure HoldsResolved (scope : Scope) (files : FileSystem) (resolved : Resolved) : Prop where
  target : scope.Has files (Target.ofPointer resolved.file resolved.pointer)
  texts : resolved.value.references ⊆ scope.texts

/-- Distinct targets of a scope are no more than the scope has. -/
theorem length_le (scope : Scope) (files : FileSystem) (targets : List Target)
    (within : ∀ target ∈ targets, scope.Has files target) (distinct : Target.Distinct targets) :
    targets.length ≤ (scope.targets files).length := by
  have nodup : targets.Nodup := by
    refine List.Pairwise.imp ?_ distinct
    rintro first _ different rfl
    rw [first.same_refl] at different
    cases different
  exact nodup.length_le_of_subset fun target member =>
    scope.mem_targets files target (within target member)

variable {scope : Scope} {files : FileSystem} {state : ChainState}

/-- Where a chain in scope lands is in scope. -/
theorem HoldsChain.landing (held : scope.HoldsChain files state) (landing : Landing)
    (lands : landing? files state = some landing) :
    scope.HoldsContext files ⟨landing.file, some landing.document⟩ ∧
      scope.HoldsResolved files landing.resolved := by
  obtain ⟨reference, read, onward⟩ := Option.bind_eq_some_iff.mp lands
  obtain ⟨⟨file, document⟩, entered, below⟩ := Option.bind_eq_some_iff.mp onward
  obtain ⟨value, found, rfl⟩ := Option.map_eq_some_iff.mp below
  have context := held.context.enter held.covers reference file document entered
  refine ⟨context, ⟨context.place, state.text, held.text, reference, read, rfl⟩, ?_⟩
  exact List.Subset.trans (document.at?_references_subset value _ found)
    (context.texts document rfl)

/-- A link keeps to the scope, and adds one target to the chain. -/
theorem HoldsChain.next (held : scope.HoldsChain files state) (after : ChainState)
    (step : chainStep files state = .next after) :
    scope.HoldsChain files after ∧ after.chain.length = state.chain.length + 1 := by
  have shape := chainStep_case files state
  have covers := chainStep_cache (scope.covers_get files) state held.covers
  rw [step] at shape covers
  cases shape with
  | goesOn cache landing text lands new refers =>
      obtain ⟨context, target, texts⟩ := held.landing landing lands
      refine ⟨⟨covers, context, ?_, ?_, ?_⟩, rfl⟩
      · exact texts (landing.value.reference?_mem_references text refers)
      · exact List.forall_mem_cons.mpr ⟨target, held.within⟩
      · exact (Target.distinct_cons _ _).mpr ⟨new, held.distinct⟩

/-- What a chain in scope finishes with is in scope. -/
theorem HoldsChain.finished (held : scope.HoldsChain files state) (found : Resolved)
    (cache : DocumentCache) (step : chainStep files state = .finished (some found) cache) :
    scope.HoldsResolved files found := by
  have shape := chainStep_case files state
  rw [step] at shape
  cases shape with
  | ends cache landing lands => exact (held.landing landing lands).2

/-- A chain within a scope ends before a bound beyond the targets of the scope. -/
theorem HoldsChain.followChain (held : scope.HoldsChain files state) (bound : Nat)
    (enough : (scope.targets files).length < bound + state.chain.length) :
    Follows files state (Resolver.followChain files bound state).1
        (Resolver.followChain files bound state).2 ∧
      ∀ found, (Resolver.followChain files bound state).1 = some found →
        scope.HoldsResolved files found := by
  induction bound generalizing state with
  | zero =>
      have short := scope.length_le files state.chain held.within held.distinct
      omega
  | succ bound ih =>
      rw [Resolver.followChain]
      cases step : chainStep files state with
      | finished resolved cache =>
          refine ⟨.finished state resolved cache step, ?_⟩
          rintro found rfl
          exact held.finished found cache step
      | next after =>
          obtain ⟨onward, longer⟩ := held.next after step
          obtain ⟨follows, reached⟩ := ih onward (by omega)
          exact ⟨.next state after _ _ step follows, reached⟩

/-- The states of a chain have as many targets as links were followed. -/
theorem HoldsChain.chainState? (held : scope.HoldsChain files state) (empty : state.chain = [])
    (count : Nat) (after : ChainState)
    (reached : Resolver.chainState? files state count = some after) :
    scope.HoldsChain files after ∧ after.chain.length = count := by
  induction count generalizing after with
  | zero =>
      cases reached
      exact ⟨held, by rw [empty, List.length_nil]⟩
  | succ count ih =>
      obtain ⟨before, earlier, last⟩ := Option.bind_eq_some_iff.mp reached
      obtain ⟨held, length⟩ := ih before earlier
      split at last
      · next next step =>
          cases last
          obtain ⟨onward, longer⟩ := held.next after step
          exact ⟨onward, by omega⟩
      · cases last

/-- A chain starts within a scope that has its first reference. -/
theorem HoldsChain.start (covers : scope.Covers files state.cache)
    (context : scope.HoldsContext files state.context) (text : state.text ∈ scope.texts)
    (empty : state.chain = []) : scope.HoldsChain files state := by
  refine ⟨covers, context, text, ?_, ?_⟩
  · rw [empty]
    exact fun _ absent => nomatch absent
  · rw [empty]
    exact .nil

/-- Resolving a reference of a scope follows its chain to the end. -/
theorem follows_resolveWithin {resolver : Resolver} (covers : scope.Covers files resolver.cache)
    (text : String) (file : Path) (document : Option Json)
    (context : scope.HoldsContext files ⟨file, document⟩) (held : text ∈ scope.texts) (bound : Nat)
    (enough : (scope.targets files).length < bound) :
    Follows files ⟨[], text, ⟨file, document⟩, resolver.cache⟩
        (resolver.resolveWithin files bound text file document).1
        (resolver.resolveWithin files bound text file document).2.cache ∧
      ∀ found, (resolver.resolveWithin files bound text file document).1 = some found →
        scope.HoldsResolved files found :=
  (HoldsChain.start covers context held rfl).followChain bound (by simpa using enough)

end Scope

namespace Resolver

/-- The scope of a start holds its context. -/
theorem holdsContext_scope (files : FileSystem) (cache : DocumentCache) (text : String)
    (file : Path) (document : Option Json) :
    (scope files cache file (text :: document.elim [] Json.references)).HoldsContext files
      ⟨file, document⟩ := by
  refine ⟨.inl rfl, ?_⟩
  rintro given ⟨⟩
  intro reference member
  exact List.mem_append_left _ (.tail _ member)

/-- Resolving a reference follows its chain to the end, and changes nothing but the cache. -/
theorem follows_resolve (files : FileSystem) (text : String) (file : Path) (document : Option Json)
    (resolver : Resolver) :
    Follows files ⟨[], text, ⟨file, document⟩, resolver.cache⟩
        (resolver.resolve files text file document).1
        (resolver.resolve files text file document).2.cache :=
  (Scope.follows_resolveWithin (scope_covers files resolver.cache file _) text file document
    (holdsContext_scope files resolver.cache text file document)
    (List.mem_append_left _ (.head _)) _ (Nat.lt_succ_self _)).1

end Resolver

end ApiContract
