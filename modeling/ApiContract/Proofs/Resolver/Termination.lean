import ApiContract.Proofs.Resolver.Run

/-
This file proves that resolving ends, both along a chain and in a tree. No bound of the functions is
ever met: what they give is the result of a run that has no bound.
-/

namespace ApiContract

namespace Resolver

/-- A call that a resolver serves. -/
inductive Call where
  | resolve (text : String) (file : Path) (document : Option Json)
  | resolveTree (node : Json) (file : Path)

def serveCall (files : FileSystem) (resolver : Resolver) : Call → Resolver
  | .resolve text file document => (resolver.resolve files text file document).2
  | .resolveTree node file => (resolver.resolveTree files node file).2

/-- A resolver that has served some calls. -/
def serve (files : FileSystem) (calls : List Call) (resolver : Resolver) : Resolver :=
  calls.foldl (serveCall files) resolver

/-- Resolving a tree makes a run over it. -/
theorem runs_resolveTree (files : FileSystem) (node : Json) (file : Path) (resolver : Resolver)
    (idle : resolver.expanding = []) :
    Runs files ((scope files resolver.cache file node.references).Allows files) file [node] resolver
      [(resolver.resolveTree files node file).1] (resolver.resolveTree files node file).2 := by
  have covers := scope_covers files resolver.cache file node.references
  have enough := Scope.suffices_of_lt (scope files resolver.cache file node.references) files
    (targetBound files resolver.cache file node.references)
    (targetBound files resolver.cache file node.references) (Nat.lt_succ_self _)
  have runs := (enough file [node] resolver (.inl rfl)
    (List.forall_mem_singleton.mpr (List.subset_append_left _ _))
    ⟨covers, by rw [idle]; exact ⟨nofun, .nil⟩⟩ (by rw [idle]; exact Nat.lt_succ_self _))
  rw [replaceInItems_singleton] at runs
  exact runs

/-- A resolver that was idle is idle again after its calls. -/
theorem serve_expanding (files : FileSystem) (calls : List Call) (resolver : Resolver)
    (idle : resolver.expanding = []) : (resolver.serve files calls).expanding = [] := by
  induction calls generalizing resolver with
  | nil => exact idle
  | cons call rest ih =>
      apply ih
      cases call with
      | resolve text file document => exact idle
      | resolveTree node file =>
          have runs := runs_resolveTree files node file resolver idle
          exact runs.expanding.trans idle

/-- What every look-up of a document keeps, a resolver keeps. -/
theorem serve_cache {files : FileSystem} {property : DocumentCache → Prop}
    (gets : ∀ path cache, property cache → property (cache.get files path).2) (calls : List Call)
    (resolver : Resolver) (idle : resolver.expanding = []) (held : property resolver.cache) :
    property (resolver.serve files calls).cache := by
  induction calls generalizing resolver with
  | nil => exact held
  | cons call rest ih =>
      cases call with
      | resolve text file document =>
          have follows := follows_resolve files text file document resolver
          exact ih _ idle (follows.cache gets held)
      | resolveTree node file =>
          have runs := runs_resolveTree files node file resolver idle
          exact ih _ (runs.expanding.trans idle) (runs.cache gets held)

/-- Resolving ends for every call, and the targets of a chain, like those that enclose one another,
are distinct ones of a finite scope. -/
theorem resolution_terminates (files : FileSystem) :
    (∀ (resolver : Resolver) (text : String) (file : Path) (document : Option Json),
      let start : ChainState := ⟨[], text, ⟨file, document⟩, resolver.cache⟩
      let given := scope files resolver.cache file (text :: document.elim [] Json.references)
      Follows files start (resolver.resolve files text file document).1
          (resolver.resolve files text file document).2.cache ∧
        ∀ count state, chainState? files start count = some state →
          state.chain.length = count ∧ given.Allows files state.chain) ∧
      (∀ (cache : DocumentCache) (calls : List Call) (node : Json) (file : Path),
        let resolver := (ofCache cache).serve files calls
        Runs files ((scope files resolver.cache file node.references).Allows files) file [node]
          resolver [(resolver.resolveTree files node file).1]
          (resolver.resolveTree files node file).2) ∧
        ∀ (given : Scope) (targets : List Target), given.Allows files targets →
          targets ⊆ given.targets files ∧ targets.length ≤ (given.targets files).length := by
  refine ⟨?_, ?_, ?_⟩
  · intro resolver text file document start given
    refine ⟨follows_resolve files text file document resolver, ?_⟩
    intro count state reached
    have held : given.HoldsChain files start :=
      .start (scope_covers files resolver.cache file _)
        (holdsContext_scope files resolver.cache text file document)
        (List.mem_append_left _ (.head _)) rfl
    obtain ⟨after, length⟩ := held.chainState? rfl count state reached
    exact ⟨length, after.within, after.distinct⟩
  · intro cache calls node file resolver
    exact runs_resolveTree files node file resolver (serve_expanding files calls _ rfl)
  · intro given targets allowed
    exact ⟨fun target member => given.mem_targets files target (allowed.within target member),
      given.length_le files targets allowed.within allowed.distinct⟩

end Resolver

namespace MutualAlias

open Resolver

/-- Two references that name each other, the second with slashes around the pointer. -/
def document : Json :=
  .object [("first", .object [("$ref", .string "#/second/")]),
    ("second", .object [("$ref", .string "#/first")])]

def files : FileSystem := ⟨[], []⟩

def resolver : Resolver := ofCache ⟨[(⟨"/alias.json"⟩, some document)]⟩

/-- A chain between two references has both as targets before it ends. -/
theorem resolution_terminates_on_alias_cycle :
    ∃ state, chainState? files ⟨[], "#/first", ⟨⟨"/alias.json"⟩, none⟩, resolver.cache⟩ 2 =
        some state ∧ state.chain.length = 2 ∧
      (scope files resolver.cache ⟨"/alias.json"⟩ ["#/first"]).Allows files state.chain := by
  refine ⟨⟨[⟨⟨"/alias.json"⟩, "second"⟩, ⟨⟨"/alias.json"⟩, "first"⟩], "#/first",
    ⟨⟨"/alias.json"⟩, some document⟩, resolver.cache⟩, by rfl, ?_⟩
  exact ((resolution_terminates files).1 resolver "#/first" ⟨"/alias.json"⟩ none).2 2 _ (by rfl)

end MutualAlias

end ApiContract
