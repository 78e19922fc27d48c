import ApiContract.Proofs.Resolver.Unfolding

/-
This file says when a tree keeps a reference after it is unfolded, and proves that the count of a
resolver grows during a run exactly if some tree of the run does.
-/

namespace ApiContract

/-- Whether a count grows exactly if something holds, and never falls. -/
structure GrowsIf (before after : Nat) (cause : Prop) : Prop where
  least : before ≤ after
  grows : before < after ↔ cause

namespace GrowsIf

/-- A count that stays the same grows for no cause. -/
theorem same (count : Nat) : GrowsIf count count False := ⟨le_refl count, by simp⟩

/-- A count that grows by one has grown. -/
theorem step (count : Nat) : GrowsIf count (count + 1) True := ⟨Nat.le_succ count, by simp⟩

/-- A count grows in two parts if it grows in one of them. -/
theorem trans {before between after : Nat} {first second : Prop}
    (early : GrowsIf before between first) (late : GrowsIf between after second) :
    GrowsIf before after (first ∨ second) := by
  refine ⟨early.least.trans late.least, ?_⟩
  rw [← early.grows, ← late.grows]
  have least := early.least
  have least' := late.least
  omega

/-- A count grows for every cause that says the same. -/
theorem congr {before after : Nat} {cause cause' : Prop} (grows : GrowsIf before after cause)
    (alike : cause ↔ cause') : GrowsIf before after cause' :=
  ⟨grows.least, grows.grows.trans alike⟩

end GrowsIf

namespace Library

/-- Whether a reference is left somewhere in what a node of a file unfolds to, inside some targets. -/
inductive Leaves (library : Library) : List Target → Path → Json → Prop where
  | inner (enclosing : List Target) (file : Path) (node child : Json)
      (concrete : node.reference? = none) (member : child ∈ node.children)
      (below : Leaves library enclosing file child) : Leaves library enclosing file node
  | marked (enclosing : List Target) (file : Path) (node : Json) (text : String)
      (refers : node.reference? = some text)
      (mark : (node.member? recursiveMark).isSome = true) : Leaves library enclosing file node
  | unresolved (enclosing : List Target) (file : Path) (node : Json) (text : String)
      (refers : node.reference? = some text)
      (nowhere : ∀ resolved, ¬library.Leads ⟨text, file, library.document? file⟩ resolved) :
      Leaves library enclosing file node
  | enclosed (enclosing : List Target) (file : Path) (node : Json) (text : String)
      (resolved : Resolved) (refers : node.reference? = some text)
      (leads : library.Leads ⟨text, file, library.document? file⟩ resolved)
      (encloses : enclosing.any (Target.ofPointer resolved.file resolved.pointer).same = true) :
      Leaves library enclosing file node
  | expanded (enclosing : List Target) (file : Path) (node : Json) (text : String)
      (resolved : Resolved) (refers : node.reference? = some text)
      (leads : library.Leads ⟨text, file, library.document? file⟩ resolved)
      (below : Leaves library (Target.ofPointer resolved.file resolved.pointer :: enclosing)
        resolved.file resolved.value) :
      Leaves library enclosing file node

variable {library : Library} {enclosing : List Target} {file : Path} {node : Json}

/-- A concrete node leaves a reference if one of its children does. -/
theorem leaves_iff_of_concrete (concrete : node.reference? = none) :
    library.Leaves enclosing file node ↔
      ∃ child ∈ node.children, library.Leaves enclosing file child := by
  constructor
  · intro leaves
    cases leaves with
    | inner _ _ _ child _ member below => exact ⟨child, member, below⟩
    | _ => simp_all
  · rintro ⟨child, member, below⟩
    exact .inner enclosing file node child concrete member below

/-- A reference that gives way to its target leaves what is left in the target. -/
theorem leaves_iff_of_leads {text : String} {resolved : Resolved}
    (refers : node.reference? = some text)
    (unmarked : (node.member? recursiveMark).isSome = false)
    (leads : library.Leads ⟨text, file, library.document? file⟩ resolved)
    (new : enclosing.any (Target.ofPointer resolved.file resolved.pointer).same = false) :
    library.Leaves enclosing file node ↔
      library.Leaves (Target.ofPointer resolved.file resolved.pointer :: enclosing) resolved.file
        resolved.value := by
  constructor
  · intro leaves
    cases leaves with
    | inner | marked => simp_all
    | unresolved _ _ _ _ refers' nowhere =>
        cases refers.symm.trans refers'
        exact absurd leads (nowhere resolved)
    | enclosed _ _ _ _ resolved' refers' leads' encloses =>
        cases refers.symm.trans refers'
        rw [library.leads_unique _ resolved resolved' leads leads', encloses] at new
        cases new
    | expanded _ _ _ _ resolved' refers' leads' below =>
        cases refers.symm.trans refers'
        cases library.leads_unique _ resolved resolved' leads leads'
        exact below
  · exact .expanded enclosing file node text resolved refers leads

/-- A run counts a reference exactly if one is left in some tree. -/
theorem growsIf_of_runs {allowed : List Target → Prop} {forest trees : List Json}
    {before after : Resolver}
    (runs : Resolver.Runs library.files allowed file forest before trees after)
    (explained : library.Explains before.cache) (settled : library.Settles file) :
    GrowsIf before.unresolved after.unresolved
      (∃ node ∈ forest, library.Leaves before.expanding file node) := by
  induction runs with
  | done => exact (GrowsIf.same _).congr (by simp)
  | inner file node rest trees trees' before between after concrete below beside ihBelow ihBeside =>
      have first := ihBelow explained settled
      have others := ihBeside (below.cache library.explains_get explained) settled
      rw [below.expanding] at others
      refine (first.trans others).congr ?_
      rw [List.exists_mem_cons_iff, leaves_iff_of_concrete concrete]
  | marked file node text rest trees before after refers mark beside ih =>
      have leaves : library.Leaves before.expanding file node := .marked _ _ _ text refers mark
      refine ((GrowsIf.step _).trans (ih explained settled)).congr ?_
      rw [List.exists_mem_cons_iff, iff_true_intro leaves]
      rfl
  | unresolved file node text rest trees before after cache refers unmarked follows beside ih =>
      have nowhere := (explained.leads_of_follows settled follows).2 rfl
      have leaves : library.Leaves before.expanding file node :=
        .unresolved _ _ _ text refers nowhere
      refine ((GrowsIf.step _).trans
        (ih (follows.cache library.explains_get explained) settled)).congr ?_
      rw [List.exists_mem_cons_iff, iff_true_intro leaves]
      rfl
  | enclosed file node text resolved rest trees before after cache refers unmarked follows encloses
      beside ih =>
      have leads := (explained.leads_of_follows settled follows).1 resolved rfl
      have leaves : library.Leaves before.expanding file node :=
        .enclosed _ _ _ text resolved refers leads encloses
      refine ((GrowsIf.step _).trans
        (ih (follows.cache library.explains_get explained) settled)).congr ?_
      rw [List.exists_mem_cons_iff, iff_true_intro leaves]
      rfl
  | expanded file node tree text resolved rest trees before between after cache refers unmarked
      follows new fits below beside ihBelow ihBeside =>
      have leads := (explained.leads_of_follows settled follows).1 resolved rfl
      have known := follows.cache library.explains_get explained
      have inside := ihBelow known (library.settles_of_leads _ _ _ settled resolved leads)
      have popped : library.Explains between.cache := below.cache library.explains_get known
      have others := ihBeside popped settled
      rw [Resolver.pop, below.expanding, Resolver.push, List.tail_cons] at others
      refine (inside.trans others).congr ?_
      rw [List.exists_mem_cons_iff (a := node), leaves_iff_of_leads refers unmarked leads new]
      exact or_congr (by simp [Resolver.push]) Iff.rfl

end Library

end ApiContract
