import ApiContract.Proofs.Resolver.Repetition

/-
This file counts the references of a tree, and proves that a resolver leaves exactly as many as it
says. The count is taken on what a run gives, not on what it reads: a target that is put in twice
leaves its broken references twice.
-/

namespace ApiContract

namespace Json

mutual

/-- The number of references in a tree. Nothing inside a reference counts. -/
def referenceCount (node : Json) : Nat :=
  if node.reference?.isSome then 1
  else
    match node with
    | object members => memberReferenceCount members
    | array items => itemReferenceCount items
    | _ => 0

def itemReferenceCount : List Json → Nat
  | [] => 0
  | item :: rest => referenceCount item + itemReferenceCount rest

def memberReferenceCount : List (String × Json) → Nat
  | [] => 0
  | (_, value) :: rest => referenceCount value + memberReferenceCount rest

end

/-- The references of items are counted one item after the other. -/
theorem itemReferenceCount_eq (items : List Json) :
    itemReferenceCount items = (items.map referenceCount).sum := by
  induction items with
  | nil => rfl
  | cons item rest ih => rw [itemReferenceCount, ih, List.map_cons, List.sum_cons]

/-- The references of members are counted one member after the other. -/
theorem memberReferenceCount_eq (members : List (String × Json)) :
    memberReferenceCount members = (members.map fun member => member.2.referenceCount).sum := by
  induction members with
  | nil => rfl
  | cons member rest ih => rw [memberReferenceCount, ih, List.map_cons, List.sum_cons]

/-- A reference counts once, whatever stands in it. -/
theorem referenceCount_of_reference {node : Json} {text : String}
    (refers : node.reference? = some text) : node.referenceCount = 1 := by
  rw [referenceCount.eq_def, refers]
  rfl

/-- A concrete node has the references of its children. -/
theorem referenceCount_of_concrete {node : Json} (concrete : node.reference? = none) :
    node.referenceCount = (node.children.map referenceCount).sum := by
  rw [referenceCount.eq_def, concrete, if_neg (by decide)]
  cases node with
  | array items => exact itemReferenceCount_eq items
  | object members =>
      rw [children, List.map_map]
      exact memberReferenceCount_eq members
  | _ => rfl

theorem anyItemHasReference_eq (items : List Json) :
    anyItemHasReference items = items.any hasReference := by
  induction items with
  | nil => rfl
  | cons item rest ih => rw [anyItemHasReference, ih, List.any_cons]

theorem anyMemberHasReference_eq (members : List (String × Json)) :
    anyMemberHasReference members = members.any fun member => member.2.hasReference := by
  induction members with
  | nil => rfl
  | cons member rest ih => rw [anyMemberHasReference, ih, List.any_cons]

/-- A reference has a reference. -/
theorem hasReference_of_reference {node : Json} {text : String}
    (refers : node.reference? = some text) : node.hasReference = true := by
  rw [hasReference.eq_def, refers]
  rfl

/-- A concrete node has a reference if one of its children does. -/
theorem hasReference_of_concrete {node : Json} (concrete : node.reference? = none) :
    node.hasReference = node.children.any hasReference := by
  rw [hasReference.eq_def, concrete, Option.isSome_none, Bool.false_or]
  cases node with
  | array items => exact anyItemHasReference_eq items
  | object members =>
      rw [children, List.any_map]
      exact anyMemberHasReference_eq members
  | _ => rfl

/-- A tree counts no reference exactly if it has none. -/
theorem referenceCount_eq_zero_iff (node : Json) :
    node.referenceCount = 0 ↔ node.hasReference = false := by
  induction node using children_induction with
  | step node ih =>
      cases refers : node.reference? with
      | some text => simp [referenceCount_of_reference refers, hasReference_of_reference refers]
      | none =>
          rw [referenceCount_of_concrete refers, hasReference_of_concrete refers,
            List.sum_eq_zero_iff_forall_eq_nat, List.any_eq_false, List.forall_mem_map]
          simpa using forall₂_congr ih

/-- A reference is no text. -/
theorem string?_of_reference {node : Json} {text : String} (refers : node.reference? = some text) :
    node.string? = none := by
  cases node with
  | object => rfl
  | _ => cases refers

/-- A node does not become a reference when its children are replaced, if none of them becomes a
text. -/
theorem reference?_withChildren {node : Json} {trees : List Json}
    (concrete : node.reference? = none)
    (texts : trees.map string? = node.children.map string?) :
    (node.withChildren trees).reference? = none := by
  have same : trees.length = node.children.length := by
    simpa using congrArg List.length texts
  rw [reference?, Option.bind_eq_none_iff]
  intro tree found
  obtain ⟨index, child, named, placed, given⟩ :=
    Library.member?_withChildren node trees _ same tree found
  have alike : some tree.string? = some child.string? := by
    have here := congrArg (fun list => list[index]?) texts
    simpa only [List.getElem?_map, given, placed, Option.map_some] using here
  rw [reference?, named, Option.bind_some] at concrete
  rw [Option.some.inj alike, concrete]

end Json

/-- Whether trees in the place of others are texts where those are, and a count grows by the number of
references in them. -/
structure Tallies (forest trees : List Json) (before after : Nat) : Prop where
  texts : trees.map Json.string? = forest.map Json.string?
  count : after = before + (trees.map Json.referenceCount).sum

namespace Tallies

variable {node tree value : Json} {rest trees : List Json} {before between after : Nat}

/-- Nothing adds nothing to the count. -/
theorem nil (count : Nat) : Tallies [] [] count count := ⟨rfl, rfl⟩

/-- The first tree adds to the count before the others. -/
theorem cons (first : Tallies [node] [tree] before between)
    (others : Tallies rest trees between after) :
    Tallies (node :: rest) (tree :: trees) before after := by
  refine ⟨?_, ?_⟩
  · rw [List.map_cons, List.map_cons, others.texts, (List.cons.inj first.texts).1]
  · have own : between = before + tree.referenceCount := by simpa using first.count
    rw [others.count, own, List.map_cons, List.sum_cons, Nat.add_assoc]

/-- A node that is no reference leaves what its children leave. -/
theorem inner (concrete : node.reference? = none) (below : Tallies node.children trees before after) :
    Tallies [node] [node.withChildren trees] before after := by
  have same : trees.length = node.children.length := by
    simpa using congrArg List.length below.texts
  refine ⟨congrArg (fun text => [text]) (Library.string?_withChildren node trees), ?_⟩
  rw [below.count, List.map_singleton, List.sum_singleton,
    Json.referenceCount_of_concrete (Json.reference?_withChildren concrete below.texts),
    node.children_withChildren trees same]

/-- A reference that gives way to a reference is left once. -/
theorem left {text text' : String} (refers : node.reference? = some text)
    (refers' : tree.reference? = some text') : Tallies [node] [tree] before (before + 1) := by
  refine ⟨?_, ?_⟩
  · rw [List.map_singleton, List.map_singleton, Json.string?_of_reference refers,
      Json.string?_of_reference refers']
  · rw [List.map_singleton, List.sum_singleton, Json.referenceCount_of_reference refers']

/-- A reference that gives way to its target leaves what the target leaves. -/
theorem target {text : String} (refers : node.reference? = some text)
    (proper : value.string? = none) (below : Tallies [value] [tree] before after) :
    Tallies [node] [tree] before after := by
  refine ⟨?_, below.count⟩
  rw [below.texts, List.map_singleton, List.map_singleton, proper, Json.string?_of_reference refers]

end Tallies

namespace Resolver

/-- Whether a reference that a run over trees of a file comes by leads to something. -/
inductive Meets (files : FileSystem) : Path → List Json → Resolver → Resolved → Prop where
  | here (file : Path) (node : Json) (text : String) (found : Resolved) (rest : List Json)
      (resolver : Resolver) (cache : DocumentCache) (refers : node.reference? = some text)
      (unmarked : (node.member? recursiveMark).isSome = false)
      (follows : Follows files ⟨[], text, ⟨file, none⟩, resolver.cache⟩ (some found) cache) :
      Meets files file (node :: rest) resolver found
  | inner (file : Path) (node : Json) (rest : List Json) (resolver : Resolver) (found : Resolved)
      (concrete : node.reference? = none) (inside : Meets files file node.children resolver found) :
      Meets files file (node :: rest) resolver found
  | target (file : Path) (node : Json) (text : String) (resolved found : Resolved)
      (rest : List Json) (resolver : Resolver) (cache : DocumentCache)
      (refers : node.reference? = some text)
      (unmarked : (node.member? recursiveMark).isSome = false)
      (follows : Follows files ⟨[], text, ⟨file, none⟩, resolver.cache⟩ (some resolved) cache)
      (new : resolver.expanding.any (Target.ofPointer resolved.file resolved.pointer).same = false)
      (inside : Meets files resolved.file [resolved.value]
        (push (Target.ofPointer resolved.file resolved.pointer) { resolver with cache := cache })
        found) :
      Meets files file (node :: rest) resolver found
  | beside (allowed : List Target → Prop) (file : Path) (node : Json) (rest trees : List Json)
      (resolver between : Resolver) (found : Resolved)
      (first : Runs files allowed file [node] resolver trees between)
      (onward : Meets files file rest between found) : Meets files file (node :: rest) resolver found

/-- Whether no reference that a run comes by leads to a text. -/
def AvoidsTexts (files : FileSystem) (file : Path) (forest : List Json) (resolver : Resolver) : Prop :=
  ∀ found, Meets files file forest resolver found → found.value.string? = none

variable {files : FileSystem} {allowed : List Target → Prop} {file : Path} {node : Json}
  {rest forest trees : List Json} {before between after : Resolver}

/-- If no reference leads to a text, none below a concrete node does. -/
theorem AvoidsTexts.inner (avoids : AvoidsTexts files file (node :: rest) before)
    (concrete : node.reference? = none) : AvoidsTexts files file node.children before :=
  fun found inside => avoids found (.inner file node rest before found concrete inside)

/-- If no reference leads to a text, none in the later trees does. -/
theorem AvoidsTexts.beside (avoids : AvoidsTexts files file (node :: rest) before)
    (first : Runs files allowed file [node] before trees between) :
    AvoidsTexts files file rest between :=
  fun found onward =>
    avoids found (.beside allowed file node rest trees before between found first onward)

/-- A run counts the references of the trees that it gives, unless a reference on the way leads to a
text. -/
theorem Runs.tallies (runs : Runs files allowed file forest before trees after)
    (avoids : AvoidsTexts files file forest before) :
    Tallies forest trees before.unresolved after.unresolved := by
  induction runs with
  | done => exact .nil _
  | inner file node rest trees trees' before between after concrete below beside ihBelow ihBeside =>
      have first : Runs files allowed file [node] before [node.withChildren trees] between :=
        .inner file node [] trees [] before between between concrete below (.done _ _)
      exact .cons (.inner concrete (ihBelow (avoids.inner concrete))) (ihBeside (avoids.beside first))
  | marked file node text rest trees before after refers mark beside ih =>
      have first : Runs files allowed file [node] before [node] (leave node before).2 :=
        .marked file node text [] [] before _ refers mark (.done _ _)
      exact .cons (.left refers refers) (ih (avoids.beside first))
  | unresolved file node text rest trees before after cache refers unmarked follows beside ih =>
      have first : Runs files allowed file [node] before [node]
          (leave node { before with cache := cache }).2 :=
        .unresolved file node text [] [] before _ cache refers unmarked follows (.done _ _)
      exact .cons (.left refers refers) (ih (avoids.beside first))
  | enclosed file node text resolved rest trees before after cache refers unmarked follows encloses
      beside ih =>
      have first : Runs files allowed file [node] before
          [(Target.ofPointer resolved.file resolved.pointer).mark node]
          (leave node { before with cache := cache }).2 :=
        .enclosed file node text resolved [] [] before _ cache refers unmarked follows encloses
          (.done _ _)
      have stays := Target.mark_reference (Target.ofPointer resolved.file resolved.pointer) node text
        refers
      exact .cons (.left refers stays.1) (ih (avoids.beside first))
  | expanded file node tree text resolved rest trees before between after cache refers unmarked
      follows new fits below beside ihBelow ihBeside =>
      have first : Runs files allowed file [node] before [tree] between.pop :=
        .expanded file node tree text resolved [] [] before between _ cache refers unmarked follows
          new fits below (.done _ _)
      have proper : resolved.value.string? = none :=
        avoids resolved (.here file node text resolved rest before cache refers unmarked follows)
      have inside := ihBelow fun found inside => avoids found
        (.target file node text resolved found rest before cache refers unmarked follows new inside)
      exact .cons (.target refers proper inside) (ihBeside (avoids.beside first))

/-- A resolver leaves as many references in a tree as it counts. -/
theorem unresolved_resolveTree (files : FileSystem) (node : Json) (file : Path) (resolver : Resolver)
    (idle : resolver.expanding = []) (avoids : AvoidsTexts files file [node] resolver) :
    (resolver.resolveTree files node file).2.unresolved =
      resolver.unresolved + (resolver.resolveTree files node file).1.referenceCount := by
  have tallies := (runs_resolveTree files node file resolver idle).tallies avoids
  simpa using tallies.count

end Resolver

end ApiContract
