import ApiContract.Proofs.Resolver.Following
import ApiContract.Proofs.Resolver.Termination

/-
This file says which tree a tree with references unfolds to, without a cache, a counter or a stack
that changes, and proves that a resolver gives that tree whatever it did before.
-/

namespace ApiContract

namespace Library

/-- Whether a node of a file unfolds to a tree inside some targets. A reference is left if it is
marked, leads nowhere, or to one of the targets. -/
inductive Unfolds (library : Library) : List Target → Path → Json → Json → Prop where
  | inner (enclosing : List Target) (file : Path) (node : Json) (trees : List Json)
      (concrete : node.reference? = none) (same : trees.length = node.children.length)
      (each : ∀ (index : Nat) (child tree : Json), node.children[index]? = some child →
        trees[index]? = some tree → Unfolds library enclosing file child tree) :
      Unfolds library enclosing file node (node.withChildren trees)
  | marked (enclosing : List Target) (file : Path) (node : Json) (text : String)
      (refers : node.reference? = some text)
      (mark : (node.member? recursiveMark).isSome = true) : Unfolds library enclosing file node node
  | unresolved (enclosing : List Target) (file : Path) (node : Json) (text : String)
      (refers : node.reference? = some text)
      (unmarked : (node.member? recursiveMark).isSome = false)
      (nowhere : ∀ resolved, ¬library.Leads ⟨text, file, library.document? file⟩ resolved) :
      Unfolds library enclosing file node node
  | enclosed (enclosing : List Target) (file : Path) (node : Json) (text : String)
      (resolved : Resolved) (refers : node.reference? = some text)
      (unmarked : (node.member? recursiveMark).isSome = false)
      (leads : library.Leads ⟨text, file, library.document? file⟩ resolved)
      (encloses : enclosing.any (Target.ofPointer resolved.file resolved.pointer).same = true) :
      Unfolds library enclosing file node
        ((Target.ofPointer resolved.file resolved.pointer).mark node)
  | expanded (enclosing : List Target) (file : Path) (node tree : Json) (text : String)
      (resolved : Resolved) (refers : node.reference? = some text)
      (unmarked : (node.member? recursiveMark).isSome = false)
      (leads : library.Leads ⟨text, file, library.document? file⟩ resolved)
      (new : enclosing.any (Target.ofPointer resolved.file resolved.pointer).same = false)
      (below : Unfolds library (Target.ofPointer resolved.file resolved.pointer :: enclosing)
        resolved.file resolved.value tree) :
      Unfolds library enclosing file node tree

variable {library : Library}

/-- A node unfolds to one tree at most. -/
theorem Unfolds.unique {enclosing : List Target} {file : Path} {node first second : Json}
    (unfolds : library.Unfolds enclosing file node first)
    (unfolds' : library.Unfolds enclosing file node second) : first = second := by
  induction unfolds generalizing second with
  | inner enclosing file node trees concrete same each ih =>
      cases unfolds' with
      | inner _ _ _ trees' _ same' each' =>
          suffices equal : trees = trees' by rw [equal]
          apply List.ext_getElem (same.trans same'.symm)
          intro index inside inside'
          have child : index < node.children.length := same ▸ inside
          exact ih index node.children[index] trees[index] (List.getElem?_eq_getElem child)
            (List.getElem?_eq_getElem inside)
            (each' index _ _ (List.getElem?_eq_getElem child) (List.getElem?_eq_getElem inside'))
      | _ => simp_all
  | marked enclosing file node text refers mark =>
      cases unfolds' with
      | marked => rfl
      | _ => simp_all
  | unresolved enclosing file node text refers unmarked nowhere =>
      cases unfolds' with
      | unresolved => rfl
      | _ => simp_all
  | enclosed enclosing file node text resolved refers unmarked leads encloses =>
      cases unfolds' with
      | enclosed _ _ _ text' resolved' refers' _ leads' =>
          cases refers.symm.trans refers'
          rw [library.leads_unique _ resolved resolved' leads leads']
      | expanded _ _ _ _ text' resolved' refers' _ leads' new =>
          cases refers.symm.trans refers'
          rw [library.leads_unique _ resolved resolved' leads leads', new] at encloses
          cases encloses
      | _ => simp_all
  | expanded enclosing file node tree text resolved refers unmarked leads new _ ih =>
      cases unfolds' with
      | enclosed _ _ _ text' resolved' refers' _ leads' encloses =>
          cases refers.symm.trans refers'
          rw [library.leads_unique _ resolved resolved' leads leads', encloses] at new
          cases new
      | expanded _ _ _ _ text' resolved' refers' _ leads' _ below' =>
          cases refers.symm.trans refers'
          cases library.leads_unique _ resolved resolved' leads leads'
          exact ih below'
      | _ => simp_all

/-- The file of what a chain leads to settles, if the first file does. -/
theorem settles_of_leads (library : Library) (text : String) (file : Path) (document : Option Json)
    (settled : library.Settles file) (resolved : Resolved)
    (leads : library.Leads ⟨text, file, document⟩ resolved) : library.Settles resolved.file := by
  obtain ⟨count, reading, landing, reached, lands, _, rfl⟩ := leads
  rcases (Keeps.land (library.keeps_reading? _ reading count reached) lands).1 with
    ⟨first, _⟩ | ⟨canonical, _⟩
  · rw [Landing.resolved, first]
    exact settled
  · exact library.settles_of_canonical canonical

/-- A resolver finds what the chain leads to from the document of a file, whatever it has cached. -/
theorem Explains.leads_of_follows {cache after : DocumentCache} (explained : library.Explains cache)
    {text : String} {file : Path} (settled : library.Settles file) {resolved : Option Resolved}
    (follows : Resolver.Follows library.files ⟨[], text, ⟨file, none⟩, cache⟩ resolved after) :
    (∀ found, resolved = some found →
        library.Leads ⟨text, file, library.document? file⟩ found) ∧
      (resolved = none → ∀ found, ¬library.Leads ⟨text, file, library.document? file⟩ found) := by
  obtain ⟨leads, fails⟩ := explained.outcome follows nofun
  rw [explained.get file settled] at leads fails
  exact ⟨leads, fun absent found reaches =>
    library.not_fails_of_leads _ found reaches (fails absent)⟩

/-- Whether each tree of a list unfolds to the tree at the same place in another. -/
def UnfoldsEach (library : Library) (enclosing : List Target) (file : Path)
    (forest trees : List Json) : Prop :=
  trees.length = forest.length ∧
    ∀ (index : Nat) (child tree : Json), forest[index]? = some child →
      trees[index]? = some tree → library.Unfolds enclosing file child tree

/-- Trees are unfolded one after the other. -/
theorem UnfoldsEach.cons {enclosing : List Target} {file : Path} {node tree : Json}
    {rest trees : List Json} (first : library.Unfolds enclosing file node tree)
    (others : library.UnfoldsEach enclosing file rest trees) :
    library.UnfoldsEach enclosing file (node :: rest) (tree :: trees) := by
  refine ⟨by rw [List.length_cons, List.length_cons, others.1], ?_⟩
  intro index child result here there
  cases index with
  | zero =>
      cases here
      cases there
      exact first
  | succ index => exact others.2 index child result here there

/-- A run gives in the place of each tree what it unfolds to. -/
theorem unfolds_of_runs {allowed : List Target → Prop} {file : Path} {forest trees : List Json}
    {before after : Resolver}
    (runs : Resolver.Runs library.files allowed file forest before trees after)
    (explained : library.Explains before.cache) (settled : library.Settles file) :
    library.UnfoldsEach before.expanding file forest trees := by
  induction runs with
  | done => exact ⟨rfl, nofun⟩
  | inner file node rest trees trees' before between after concrete below beside ihBelow ihBeside =>
      obtain ⟨same, each⟩ := ihBelow explained settled
      have others := ihBeside (below.cache library.explains_get explained) settled
      rw [below.expanding] at others
      exact .cons (.inner _ file node trees concrete same each) others
  | marked file node text rest trees before after refers mark beside ih =>
      exact .cons (.marked _ file node text refers mark) (ih explained settled)
  | unresolved file node text rest trees before after cache refers unmarked follows beside ih =>
      have nowhere := (explained.leads_of_follows settled follows).2 rfl
      exact .cons (.unresolved _ file node text refers unmarked nowhere)
        (ih (follows.cache library.explains_get explained) settled)
  | enclosed file node text resolved rest trees before after cache refers unmarked follows encloses
      beside ih =>
      have leads := (explained.leads_of_follows settled follows).1 resolved rfl
      exact .cons (.enclosed _ file node text resolved refers unmarked leads encloses)
        (ih (follows.cache library.explains_get explained) settled)
  | expanded file node tree text resolved rest trees before between after cache refers unmarked
      follows new fits below beside ihBelow ihBeside =>
      have leads := (explained.leads_of_follows settled follows).1 resolved rfl
      have known := follows.cache library.explains_get explained
      have inside := ihBelow known (library.settles_of_leads _ _ _ settled resolved leads)
      have popped : library.Explains between.cache := below.cache library.explains_get known
      have others := ihBeside popped settled
      rw [Resolver.pop, below.expanding, Resolver.push, List.tail_cons] at others
      exact .cons (.expanded _ file node tree text resolved refers unmarked leads new
        (inside.2 0 _ _ rfl rfl)) others

end Library

namespace Resolver

open Library

/-- A resolver that is not inside a tree gives what a tree unfolds to. -/
theorem unfolds_resolveTree {library : Library} (resolver : Resolver)
    (idle : resolver.expanding = []) (explained : library.Explains resolver.cache) (node : Json)
    (file : Path) (settled : library.Settles file) :
    library.Unfolds [] file node (resolver.resolveTree library.files node file).1 := by
  have runs := runs_resolveTree library.files node file resolver idle
  have unfolds := (unfolds_of_runs runs explained settled).2 0 node _ rfl rfl
  rwa [idle] at unfolds

/-- For a file that settles, a resolver gives the tree that a node unfolds to, whatever it served
before and whatever it has cached. -/
theorem resolveTree_refines_unfolding (library : Library) (cache : DocumentCache)
    (explained : library.Explains cache) (calls : List Call) (node : Json) (file : Path)
    (settled : library.Settles file) :
    let resolver := (ofCache cache).serve library.files calls
    (∀ tree, library.Unfolds [] file node tree ↔
        tree = (resolver.resolveTree library.files node file).1) ∧
      (resolver.resolveTree library.files node file).2.expanding = resolver.expanding := by
  intro resolver
  have idle : resolver.expanding = [] := serve_expanding library.files calls _ rfl
  have known : library.Explains resolver.cache :=
    serve_cache library.explains_get calls (ofCache cache) rfl explained
  have runs := runs_resolveTree library.files node file resolver idle
  have unfolds := (unfolds_of_runs runs known settled).2 0 node _ rfl rfl
  rw [idle] at unfolds
  refine ⟨fun tree => ⟨fun other => other.unique unfolds, ?_⟩, runs.expanding⟩
  rintro rfl
  exact unfolds

end Resolver

namespace RecursiveSchema

open Library Resolver

/-- A node whose child is the node itself, by way of an alias. -/
def node : Json := .object [("child", .object [("$ref", .string "#/alias")])]

def document : Json := .object [("alias", .object [("$ref", .string "#/node/")]), ("node", node)]

def library : Library := ⟨⟨[], []⟩, [(⟨"/tree.json"⟩, document)]⟩

def cache : DocumentCache := ⟨[(⟨"/tree.json"⟩, some document)]⟩

/-- The alias leads to the tree itself. -/
theorem leads : library.Leads ⟨"#/alias", ⟨"/tree.json"⟩, library.document? ⟨"/tree.json"⟩⟩
    ⟨node, ⟨"/tree.json"⟩, "/node/"⟩ := by
  have last : library.Leads ⟨"#/node/", ⟨"/tree.json"⟩, some document⟩
      ⟨node, ⟨"/tree.json"⟩, "/node/"⟩ :=
    ⟨0, _, ⟨⟨"/tree.json"⟩, document, "/node/", node⟩, rfl, by rfl, rfl, rfl⟩
  have landed : library.land? ⟨"#/alias", ⟨"/tree.json"⟩, some document⟩ =
      some ⟨⟨"/tree.json"⟩, document, "/alias", .object [("$ref", .string "#/node/")]⟩ := by
    rfl
  exact last.before landed (by rfl)

/-- The node unfolds once; the reference back to it is marked. -/
theorem unfolds : library.Unfolds [] ⟨"/tree.json"⟩ (.object [("$ref", .string "#/alias")])
    (.object [("child", .object [("$ref", .string "#/alias"),
      ("x-recursive-ref", .string "/tree.json#/node")])]) := by
  have back : library.Unfolds [⟨⟨"/tree.json"⟩, "node"⟩] ⟨"/tree.json"⟩
      (.object [("$ref", .string "#/alias")])
      (.object [("$ref", .string "#/alias"), ("x-recursive-ref", .string "/tree.json#/node")]) :=
    .enclosed _ _ _ _ _ (by rfl) (by rfl) leads (by rfl)
  refine .expanded _ _ _ _ _ _ (by rfl) (by rfl) leads (by rfl) ?_
  refine .inner _ _ node [_] (by rfl) (by rfl) ?_
  intro index child tree here there
  cases index with
  | zero =>
      cases here
      cases there
      exact back
  | succ index => cases here

/-- A recursive schema is unfolded once, also by a resolver that did so before. -/
theorem resolveTree_unfolds_recursive_schema :
    library.Explains cache ∧ library.Settles ⟨"/tree.json"⟩ ∧
      (((ofCache cache).serve library.files [.resolveTree document ⟨"/tree.json"⟩]).resolveTree
          library.files (.object [("$ref", .string "#/alias")]) ⟨"/tree.json"⟩).1 =
        .object [("child", .object [("$ref", .string "#/alias"),
          ("x-recursive-ref", .string "/tree.json#/node")])] := by
  have explained : library.Explains cache := explains_inserted library.files library.inserted
  have settled : library.Settles ⟨"/tree.json"⟩ :=
    library.settles_of_endsInName ⟨"/tree.json"⟩ (by rfl)
  refine ⟨explained, settled, ?_⟩
  have refines := resolveTree_refines_unfolding library cache explained
    [.resolveTree document ⟨"/tree.json"⟩] (.object [("$ref", .string "#/alias")]) ⟨"/tree.json"⟩
    settled
  exact ((refines.1 _).mp unfolds).symm

end RecursiveSchema

namespace SlashedFile

open DocumentCache Library Resolver

/-- At the spelling the reference unfolds to itself, and no function of file and tree gives what a
resolver gives over both caches. -/
theorem resolveTree_depends_on_cache :
    (library.Explains empty ∧ library.Explains warm) ∧ library.Unfolds [] path node node ∧
      ((ofCache warm).resolveTree library.files node path).1 ≠ node ∧
        ¬∃ unfolding : Path → Json → Json, ∀ cache, library.Explains cache → ∀ file tree,
          ((ofCache cache).resolveTree library.files tree file).1 = unfolding file tree := by
  have unequal : Json.integer 1 ≠ node := nofun
  have late : ((ofCache warm).resolveTree library.files node path).1 = .integer 1 :=
    congrArg Prod.fst (resolveTree_warm 0)
  have early : ((ofCache empty).resolveTree library.files node path).1 = node :=
    congrArg Prod.fst (resolveTree_cold 0)
  refine ⟨explains, ?_, late ▸ unequal, ?_⟩
  · have nothing : library.document? path = none := by
      simp [document?, inserted?, library, canonical?_path]
    refine .unresolved [] path node "#/x" rfl rfl fun resolved leads => ?_
    refine library.not_fails_of_leads _ resolved leads (.inl ⟨0, _, rfl, ?_⟩)
    exact .ownDocument "/x" (by decide +kernel) nothing
  · rintro ⟨unfolding, gives⟩
    have same := (gives warm explains.2 path node).trans (gives empty explains.1 path node).symm
    rw [late, early] at same
    exact unequal same

end SlashedFile

end ApiContract
