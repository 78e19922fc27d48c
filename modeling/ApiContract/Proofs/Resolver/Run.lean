import ApiContract.Proofs.Json.Forest
import ApiContract.Proofs.Resolver.Chain

/-
This file says what a resolver does to trees without any bound, one tree after the other, and proves
that it always comes to an end. The targets that enclose one another are distinct and lie in a finite
scope.
-/

namespace ApiContract

namespace Json

/-- The references of a child are references of the node. -/
theorem child_references_subset (node child : Json) (member : child ∈ node.children) :
    child.references ⊆ node.references := by
  cases node with
  | array items => exact item_references_subset items child member
  | object members =>
      obtain ⟨⟨key, value⟩, held, rfl⟩ := List.mem_map.mp member
      exact member_references_subset members key value held
  | _ => cases member

end Json

namespace Resolver

/-- The values of members are treated like items, and keep their keys. -/
theorem replaceInMembers_eq (expand : String → Json → Resolver → Json × Resolver)
    (members : List (String × Json)) (resolver : Resolver) :
    replaceInMembers expand members resolver =
      ((members.map (·.1)).zip (replaceInItems expand (members.map (·.2)) resolver).1,
        (replaceInItems expand (members.map (·.2)) resolver).2) := by
  induction members generalizing resolver with
  | nil => simp [replaceInMembers, replaceInItems]
  | cons member rest ih =>
      obtain ⟨key, value⟩ := member
      simp only [replaceInMembers, replaceInItems, List.map_cons, List.zip_cons_cons, ih]

/-- Below a node that is no reference, the children are replaced one after the other. -/
theorem replaceReferences_inner (expand : String → Json → Resolver → Json × Resolver) (node : Json)
    (resolver : Resolver) (concrete : node.reference? = none) :
    replaceReferences expand node resolver =
      (node.withChildren (replaceInItems expand node.children resolver).1,
        (replaceInItems expand node.children resolver).2) := by
  cases node with
  | array items =>
      rw [replaceReferences, concrete]
      rfl
  | object members =>
      rw [replaceReferences, concrete]
      simp only [replaceInMembers_eq]
      rfl
  | _ =>
      rw [replaceReferences.eq_def, concrete]
      simp [Json.children, Json.withChildren, replaceInItems]

/-- A reference is expanded. -/
theorem replaceReferences_reference (expand : String → Json → Resolver → Json × Resolver)
    (node : Json) (text : String) (resolver : Resolver) (refers : node.reference? = some text) :
    replaceReferences expand node resolver = expand text node resolver := by
  rw [replaceReferences.eq_def, refers]

/-- A single item is treated by itself. -/
theorem replaceInItems_singleton (expand : String → Json → Resolver → Json × Resolver)
    (node : Json) (resolver : Resolver) :
    replaceInItems expand [node] resolver =
      ([(replaceReferences expand node resolver).1], (replaceReferences expand node resolver).2) := by
  simp only [replaceInItems]

/-- A run over trees that lie in a file, which gives trees in their place. Every list of targets
that enclose one another during the run is an allowed one. -/
inductive Runs (files : FileSystem) (allowed : List Target → Prop) :
    Path → List Json → Resolver → List Json → Resolver → Prop where
  | done (file : Path) (resolver : Resolver) : Runs files allowed file [] resolver [] resolver
  | inner (file : Path) (node : Json) (rest trees trees' : List Json)
      (before between after : Resolver) (concrete : node.reference? = none)
      (below : Runs files allowed file node.children before trees between)
      (beside : Runs files allowed file rest between trees' after) :
      Runs files allowed file (node :: rest) before (node.withChildren trees :: trees') after
  | marked (file : Path) (node : Json) (text : String) (rest trees : List Json)
      (before after : Resolver) (refers : node.reference? = some text)
      (mark : (node.member? recursiveMark).isSome = true)
      (beside : Runs files allowed file rest (leave node before).2 trees after) :
      Runs files allowed file (node :: rest) before (node :: trees) after
  | unresolved (file : Path) (node : Json) (text : String) (rest trees : List Json)
      (before after : Resolver) (cache : DocumentCache) (refers : node.reference? = some text)
      (unmarked : (node.member? recursiveMark).isSome = false)
      (follows : Follows files ⟨[], text, ⟨file, none⟩, before.cache⟩ none cache)
      (beside : Runs files allowed file rest (leave node { before with cache := cache }).2 trees
        after) :
      Runs files allowed file (node :: rest) before (node :: trees) after
  | enclosed (file : Path) (node : Json) (text : String) (resolved : Resolved)
      (rest trees : List Json) (before after : Resolver) (cache : DocumentCache)
      (refers : node.reference? = some text)
      (unmarked : (node.member? recursiveMark).isSome = false)
      (follows : Follows files ⟨[], text, ⟨file, none⟩, before.cache⟩ (some resolved) cache)
      (encloses : before.expanding.any (Target.ofPointer resolved.file resolved.pointer).same = true)
      (beside : Runs files allowed file rest (leave node { before with cache := cache }).2 trees
        after) :
      Runs files allowed file (node :: rest) before
        ((Target.ofPointer resolved.file resolved.pointer).mark node :: trees) after
  | expanded (file : Path) (node tree : Json) (text : String) (resolved : Resolved)
      (rest trees : List Json) (before between after : Resolver) (cache : DocumentCache)
      (refers : node.reference? = some text)
      (unmarked : (node.member? recursiveMark).isSome = false)
      (follows : Follows files ⟨[], text, ⟨file, none⟩, before.cache⟩ (some resolved) cache)
      (new : before.expanding.any (Target.ofPointer resolved.file resolved.pointer).same = false)
      (fits : allowed (Target.ofPointer resolved.file resolved.pointer :: before.expanding))
      (below : Runs files allowed resolved.file [resolved.value]
        (push (Target.ofPointer resolved.file resolved.pointer) { before with cache := cache })
        [tree] between)
      (beside : Runs files allowed file rest between.pop trees after) :
      Runs files allowed file (node :: rest) before (tree :: trees) after

/-- A run leaves the enclosing targets as they were, whatever is between. -/
theorem Runs.expanding {files : FileSystem} {allowed : List Target → Prop} {file : Path}
    {forest trees : List Json} {before after : Resolver}
    (runs : Runs files allowed file forest before trees after) :
    after.expanding = before.expanding := by
  induction runs with
  | done => rfl
  | inner _ _ _ _ _ _ _ _ _ _ _ ihBelow ihBeside => rw [ihBeside, ihBelow]
  | marked _ _ _ _ _ _ _ _ _ _ ih => rw [ih, leave]
  | unresolved _ _ _ _ _ _ _ _ _ _ _ _ ih => rw [ih, leave]
  | enclosed _ _ _ _ _ _ _ _ _ _ _ _ _ _ ih => rw [ih, leave]
  | expanded _ _ _ _ _ _ _ _ _ _ _ _ _ _ _ _ _ _ ihBelow ihBeside =>
      rw [ihBeside, pop, ihBelow, push, List.tail_cons]

/-- What every look-up of a document keeps, a run keeps. -/
theorem Runs.cache {files : FileSystem} {property : DocumentCache → Prop}
    (gets : ∀ path cache, property cache → property (cache.get files path).2)
    {allowed : List Target → Prop} {file : Path} {forest trees : List Json}
    {before after : Resolver} (runs : Runs files allowed file forest before trees after)
    (held : property before.cache) : property after.cache := by
  induction runs with
  | done => exact held
  | inner _ _ _ _ _ _ _ _ _ _ _ ihBelow ihBeside => exact ihBeside (ihBelow held)
  | marked _ _ _ _ _ _ _ _ _ _ ih => exact ih held
  | unresolved _ _ _ _ _ _ _ _ _ _ follows _ ih => exact ih (follows.cache gets held)
  | enclosed _ _ _ _ _ _ _ _ _ _ _ follows _ _ ih => exact ih (follows.cache gets held)
  | expanded _ _ _ _ _ _ _ _ _ _ _ _ _ follows _ _ _ _ ihBelow ihBeside =>
      exact ihBeside (ihBelow (follows.cache gets held))

end Resolver

namespace Scope

open Resolver

/-- Whether targets may enclose one another in a run of a scope. -/
structure Allows (scope : Scope) (files : FileSystem) (targets : List Target) : Prop where
  within : ∀ target ∈ targets, scope.Has files target
  distinct : Target.Distinct targets

/-- What holds of a resolver during a run. -/
structure HoldsResolver (scope : Scope) (files : FileSystem) (resolver : Resolver) : Prop where
  covers : scope.Covers files resolver.cache
  expanding : scope.Allows files resolver.expanding

variable {scope : Scope} {files : FileSystem} {bound : Nat}

/-- Whether a number of levels is enough for the trees of a scope. -/
def Suffices (scope : Scope) (files : FileSystem) (bound levels : Nat) : Prop :=
  ∀ (file : Path) (forest : List Json) (resolver : Resolver), scope.HasPlace files file →
    (∀ node ∈ forest, node.references ⊆ scope.texts) → scope.HoldsResolver files resolver →
      (scope.targets files).length < levels + resolver.expanding.length →
        Runs files (scope.Allows files) file forest resolver
          (replaceInItems (expandReference files bound levels file) forest resolver).1
          (replaceInItems (expandReference files bound levels file) forest resolver).2

/-- A run leaves a resolver whose cache is in scope. -/
theorem HoldsResolver.after {resolver after : Resolver} {file : Path} {forest trees : List Json}
    (held : scope.HoldsResolver files resolver)
    (runs : Runs files (scope.Allows files) file forest resolver trees after) :
    scope.HoldsResolver files after := by
  refine ⟨runs.cache (scope.covers_get files) held.covers, ?_⟩
  rw [runs.expanding]
  exact held.expanding

/-- What comes in the place of a reference goes on to a run over what is beside it. -/
theorem HoldsResolver.expand {levels : Nat} (smaller : scope.Suffices files bound levels)
    (chains : (scope.targets files).length < bound) {file : Path} {node : Json} {text : String}
    {resolver : Resolver} (place : scope.HasPlace files file) (given : text ∈ scope.texts)
    (refers : node.reference? = some text) (held : scope.HoldsResolver files resolver)
    (enough : (scope.targets files).length < levels + 1 + resolver.expanding.length)
    (rest trees : List Json) (last : Resolver)
    (beside : Runs files (scope.Allows files) file rest
      (expandReference files bound (levels + 1) file text node resolver).2 trees last) :
    Runs files (scope.Allows files) file (node :: rest) resolver
      ((expandReference files bound (levels + 1) file text node resolver).1 :: trees) last := by
  rw [expandReference] at beside ⊢
  by_cases mark : (node.member? recursiveMark).isSome = true
  · rw [if_pos mark] at beside ⊢
    exact .marked file node text rest trees resolver last refers mark beside
  · rw [if_neg mark] at beside ⊢
    have unmarked := Bool.eq_false_iff.mpr mark
    obtain ⟨follows, reached⟩ :=
      follows_resolveWithin held.covers text file none ⟨place, nofun⟩ given bound chains
    have covers := follows.cache (scope.covers_get files) held.covers
    have kept : (resolver.resolveWithin files bound text file none).2 =
        { resolver with
          cache := (resolver.resolveWithin files bound text file none).2.cache } := rfl
    rcases outcome : resolver.resolveWithin files bound text file none with ⟨resolved?, after⟩
    rw [outcome] at follows reached covers kept beside
    dsimp only at follows reached covers kept beside ⊢
    have same : after.expanding = resolver.expanding := by rw [kept]
    cases resolved? with
    | none =>
        rw [kept] at beside
        exact .unresolved file node text rest trees resolver last after.cache refers unmarked
          follows beside
    | some resolved =>
        obtain ⟨target, texts⟩ := reached resolved rfl
        dsimp only at beside ⊢
        split
        · next encloses =>
            rw [if_pos encloses, kept] at beside
            rw [same] at encloses
            exact .enclosed file node text resolved rest trees resolver last after.cache refers
              unmarked follows encloses beside
        · next new =>
            rw [if_neg new] at beside
            have new := Bool.eq_false_iff.mpr new
            rw [same] at new
            have allowed : scope.Allows files
                (Target.ofPointer resolved.file resolved.pointer :: resolver.expanding) :=
              ⟨List.forall_mem_cons.mpr ⟨target, held.expanding.within⟩,
                (Target.distinct_cons _ _).mpr ⟨new, held.expanding.distinct⟩⟩
            have below := smaller resolved.file [resolved.value]
              (push (Target.ofPointer resolved.file resolved.pointer) after) target.place
              (List.forall_mem_singleton.mpr texts) ⟨covers, by rw [push, same]; exact allowed⟩
              (by rw [push, same, List.length_cons]; omega)
            rw [replaceInItems_singleton] at below
            exact .expanded file node _ text resolved rest trees resolver _ last after.cache refers
              unmarked follows new allowed (by rw [← kept]; exact below) beside

/-- As many levels as there are targets are enough. -/
theorem suffices_of_lt (scope : Scope) (files : FileSystem) (bound levels : Nat)
    (chains : (scope.targets files).length < bound) : scope.Suffices files bound levels := by
  induction levels with
  | zero =>
      intro file forest resolver _ _ held enough
      have few := scope.length_le files _ held.expanding.within held.expanding.distinct
      omega
  | succ levels ihLevels =>
      intro file forest
      induction forest using Json.forest_induction with
      | empty => exact fun resolver _ _ _ _ => .done file resolver
      | cons node rest ihChildren ihRest =>
          intro resolver place texts held enough
          obtain ⟨own, others⟩ := List.forall_mem_cons.mp texts
          simp only [replaceInItems]
          cases refers : node.reference? with
          | some text =>
              rw [replaceReferences_reference _ _ text _ refers]
              have onward := held.expand ihLevels chains place
                (own (node.reference?_mem_references text refers)) refers enough
              have alone := onward [] [] _ (.done file _)
              refine onward _ _ _ (ihRest _ place others (held.after alone) ?_)
              rw [alone.expanding]
              omega
          | none =>
              rw [replaceReferences_inner _ _ _ refers]
              have below := ihChildren resolver place
                (fun child member => List.Subset.trans (node.child_references_subset child member) own)
                held enough
              refine .inner file node rest _ _ resolver _ _ refers below
                (ihRest _ place others (held.after below) ?_)
              rw [below.expanding]
              omega

end Scope

end ApiContract
