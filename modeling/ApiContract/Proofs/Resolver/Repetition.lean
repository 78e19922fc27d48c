import ApiContract.Proofs.Resolver.Unfolding

/-
This file says when resolving a resolved tree changes nothing. The references that were left in place
lose the file that they were read in, so a second run reads them in the file of the whole tree. It
changes nothing exactly if each of them rests there; within one file they do.
-/

namespace ApiContract

namespace Json

/-- Whether a reference stands in a tree, and inside no other reference. -/
inductive Exposes : Json → Json → Prop where
  | here (node : Json) (text : String) (refers : node.reference? = some text) : Exposes node node
  | inner (node child left : Json) (concrete : node.reference? = none)
      (member : child ∈ node.children) (inside : Exposes child left) : Exposes node left

/-- A reference exposes itself only. -/
theorem Exposes.of_reference {node left : Json} {text : String} (exposes : node.Exposes left)
    (refers : node.reference? = some text) : left = node := by
  cases exposes with
  | here => rfl
  | inner _ _ _ concrete =>
      rw [refers] at concrete
      cases concrete

/-- What is exposed is a reference. -/
theorem Exposes.reference {node left : Json} (exposes : node.Exposes left) :
    ∃ text, left.reference? = some text := by
  induction exposes with
  | here _ text refers => exact ⟨text, refers⟩
  | inner _ _ _ _ _ _ ih => exact ih

/-- What a concrete node exposes is exposed by one of its children. -/
theorem Exposes.of_concrete {node left : Json} (exposes : node.Exposes left)
    (concrete : node.reference? = none) : ∃ child ∈ node.children, child.Exposes left := by
  cases exposes with
  | here _ _ refers =>
      rw [refers] at concrete
      cases concrete
  | inner _ child _ _ member inside => exact ⟨child, member, inside⟩

end Json

/-- A marked reference is still a reference, and has its mark. -/
theorem Target.mark_reference (target : Target) (node : Json) (text : String)
    (refers : node.reference? = some text) :
    (target.mark node).reference? = some text ∧
      ((target.mark node).member? recursiveMark).isSome = true := by
  cases node with
  | object members =>
      simp only [mark, Json.members, Json.reference?, Json.member?, Table.lookup_insert] at *
      exact ⟨by rw [if_neg (by decide), refers], rfl⟩
  | _ => cases refers

namespace Library

variable {library : Library} {enclosing : List Target} {file : Path} {node tree left : Json}

/-- What a node that is no reference unfolds to. -/
theorem Unfolds.of_concrete (unfolds : library.Unfolds enclosing file node tree)
    (concrete : node.reference? = none) :
    ∃ trees, tree = node.withChildren trees ∧
      library.UnfoldsEach enclosing file node.children trees := by
  cases unfolds with
  | inner _ _ _ trees _ same each => exact ⟨trees, rfl, same, each⟩
  | _ => simp_all

/-- Whether a reference stays when it is read in a file: it is marked, leads nowhere, or comes again
in what it leads to. -/
def Rests (library : Library) (file : Path) (left : Json) : Prop :=
  ∀ text, left.reference? = some text → (left.member? recursiveMark).isSome = false →
    ∀ resolved, library.Leads ⟨text, file, library.document? file⟩ resolved →
      library.Unfolds [Target.ofPointer resolved.file resolved.pointer] resolved.file resolved.value
        left

/-- A reference unfolds to itself if it rests. -/
theorem unfolds_self_iff_rests {text : String} (refers : left.reference? = some text) :
    library.Unfolds [] file left left ↔ library.Rests file left := by
  constructor
  · rintro unfolds text' refers' unmarked resolved leads
    cases refers.symm.trans refers'
    have once (tree : Json) (unfolds : library.Unfolds [] file left tree) :
        library.Unfolds [Target.ofPointer resolved.file resolved.pointer] resolved.file
          resolved.value tree := by
      cases unfolds with
      | inner | marked => simp_all
      | unresolved _ _ _ _ refers' _ nowhere =>
          cases refers.symm.trans refers'
          exact absurd leads (nowhere resolved)
      | enclosed _ _ _ _ _ _ _ _ encloses => cases encloses
      | expanded _ _ _ _ _ resolved' refers' _ leads' _ below =>
          cases refers.symm.trans refers'
          cases library.leads_unique _ resolved resolved' leads leads'
          exact below
    exact once left unfolds
  · intro rests
    by_cases mark : (left.member? recursiveMark).isSome = true
    · exact .marked [] file left text refers mark
    · have unmarked := Bool.eq_false_iff.mpr mark
      by_cases reaches : ∃ resolved, library.Leads ⟨text, file, library.document? file⟩ resolved
      · obtain ⟨resolved, leads⟩ := reaches
        exact .expanded [] file left left text resolved refers unmarked leads rfl
          (rests text refers unmarked resolved leads)
      · exact .unresolved [] file left text refers unmarked
          fun resolved leads => reaches ⟨resolved, leads⟩

/-- A tree unfolds to itself exactly if all its references do. -/
theorem unfolds_self_iff (tree : Json) :
    library.Unfolds enclosing file tree tree ↔
      ∀ left, tree.Exposes left → library.Unfolds enclosing file left left := by
  constructor
  · intro unfolds left exposes
    induction exposes with
    | here => exact unfolds
    | inner node child left concrete member inside ih =>
        obtain ⟨trees, same, length, each⟩ := unfolds.of_concrete concrete
        have alike : trees = node.children := by
          rw [← node.children_withChildren trees length, ← same]
        obtain ⟨index, within, rfl⟩ := List.mem_iff_getElem.mp member
        have here := List.getElem?_eq_getElem within
        exact ih (each index _ _ here (by rw [alike, here]))
  · -- Trees side by side unfold each on its own, so the induction is over lists of trees.
    have forest (trees : List Json) : (∀ node ∈ trees, ∀ left, node.Exposes left →
        library.Unfolds enclosing file left left) →
          library.UnfoldsEach enclosing file trees trees := by
      induction trees using Json.forest_induction with
      | empty => exact fun _ => ⟨rfl, nofun⟩
      | cons node rest ihChildren ihRest =>
          intro each
          obtain ⟨own, others⟩ := List.forall_mem_cons.mp each
          refine .cons ?_ (ihRest others)
          cases refers : node.reference? with
          | some text => exact own node (.here node text refers)
          | none =>
              obtain ⟨same, inside⟩ := ihChildren fun child member left exposes =>
                own left (.inner node child left refers member exposes)
              have whole := Unfolds.inner enclosing file node node.children refers same inside
              rwa [node.withChildren_children] at whole
    intro each
    exact (forest [tree] (List.forall_mem_singleton.mpr each)).2 0 tree tree rfl rfl

/-- Whether references of a file lead to nodes of that file only. -/
def StaysIn (library : Library) (file : Path) : Prop :=
  ∀ text resolved, library.Leads ⟨text, file, library.document? file⟩ resolved →
    resolved.file = file

/-- Whether the member that would make a node a reference is no reference itself, so that the node
does not become one. -/
def KeepsShape (node : Json) : Prop :=
  ∀ inner, node.member? "$ref" = some inner → inner.reference? = none

/-- What a chain within a file leads to has whatever the document has everywhere. -/
theorem everywhere_of_leads {property : Json → Prop} {text : String} {resolved : Resolved}
    (leads : library.Leads ⟨text, file, library.document? file⟩ resolved)
    (home : resolved.file = file)
    (held : ∀ document, library.document? file = some document → document.Everywhere property) :
    resolved.value.Everywhere property ∧ resolved.value.reference? = none := by
  obtain ⟨count, reading, landing, reached, lands, concrete, rfl⟩ := leads
  obtain ⟨kept, found⟩ := Keeps.land (library.keeps_reading? _ reading count reached) lands
  have own : library.document? file = some landing.document := by
    rcases kept with ⟨_, given⟩ | ⟨_, given⟩
    · exact given
    · rw [← home]
      exact given
  exact ⟨(held landing.document own).at? found, concrete⟩

/-- A node is the text that it is, whatever its children are replaced with. -/
theorem string?_withChildren (node : Json) (trees : List Json) :
    (node.withChildren trees).string? = node.string? := by
  cases node <;> rfl

/-- A member that is found after replacing the children replaces one of the same key. -/
theorem member?_withChildren (node : Json) (trees : List Json) (key : String)
    (same : trees.length = node.children.length) (tree : Json)
    (found : (node.withChildren trees).member? key = some tree) :
    ∃ (index : Nat) (child : Json), node.member? key = some child ∧
      node.children[index]? = some child ∧ trees[index]? = some tree := by
  cases node with
  | object members =>
      rw [Json.children, List.length_map] at same
      simp only [Json.withChildren, Json.member?, Json.children] at found ⊢
      induction members generalizing trees with
      | nil => cases found
      | cons member rest ih =>
          obtain ⟨other, held⟩ := member
          cases trees with
          | nil => cases same
          | cons first trees =>
              simp only [List.map_cons, List.zip_cons_cons, Table.lookup_cons] at found ⊢
              split at found
              · next here =>
                  cases found
                  exact ⟨0, held, if_pos here, rfl, rfl⟩
              · next elsewhere =>
                  obtain ⟨index, child, named, placed, given⟩ :=
                    ih trees (Nat.succ.inj same) found
                  exact ⟨index + 1, child, by rw [if_neg elsewhere, named], placed, given⟩
  | _ => cases found

/-- A node that keeps its shape is no reference afterwards, either. -/
theorem Unfolds.concrete (unfolds : library.Unfolds enclosing file node tree)
    (concrete : node.reference? = none) (shape : KeepsShape node) : tree.reference? = none := by
  obtain ⟨trees, rfl, same, each⟩ := unfolds.of_concrete concrete
  rw [Json.reference?, Option.bind_eq_none_iff]
  intro inner found
  obtain ⟨index, child, named, placed, given⟩ := member?_withChildren node trees _ same inner found
  obtain ⟨inners, rfl, _⟩ := (each index child inner placed given).of_concrete (shape child named)
  rw [string?_withChildren]
  rw [Json.reference?, named] at concrete
  exact concrete

/-- Within one file, all references that are left rest. -/
theorem Unfolds.rests (unfolds : library.Unfolds enclosing file node tree)
    (stays : library.StaysIn file)
    (shapes : ∀ document, library.document? file = some document →
      document.Everywhere KeepsShape) (shape : node.Everywhere KeepsShape)
    (exposes : tree.Exposes left) : library.Rests file left := by
  induction unfolds generalizing left with
  | inner enclosing file node trees concrete same each ih =>
      have whole := Unfolds.inner enclosing file node trees concrete same each
      obtain ⟨child, member, inside⟩ := exposes.of_concrete (whole.concrete concrete shape.here)
      rw [node.children_withChildren trees same] at member
      obtain ⟨index, within, rfl⟩ := List.mem_iff_getElem.mp member
      have there : index < node.children.length := same ▸ within
      exact ih index _ _ (List.getElem?_eq_getElem there) (List.getElem?_eq_getElem within) stays
        shapes (shape.child _ (List.getElem_mem there)) inside
  | marked enclosing file node text refers mark =>
      cases exposes.of_reference refers
      intro _ _ unmarked
      rw [mark] at unmarked
      cases unmarked
  | unresolved enclosing file node text refers unmarked nowhere =>
      cases exposes.of_reference refers
      intro text' refers' _ resolved leads
      cases refers.symm.trans refers'
      exact absurd leads (nowhere resolved)
  | enclosed enclosing file node text resolved refers unmarked leads encloses =>
      obtain ⟨refers', mark⟩ := Target.mark_reference _ node text refers
      cases exposes.of_reference refers'
      intro _ _ unmarked
      rw [mark] at unmarked
      cases unmarked
  | expanded enclosing file node tree text resolved refers unmarked leads new below ih =>
      have home := stays text resolved leads
      have inside := (everywhere_of_leads leads home shapes).1
      rw [home] at ih
      exact ih stays shapes inside exposes

end Library

namespace Resolver

open Library

/-- Resolving a resolved tree again changes nothing exactly if all references that were left rest in
the file of the tree. -/
theorem resolveTree_again_iff (library : Library) (cache cache' : DocumentCache)
    (explained : library.Explains cache) (explained' : library.Explains cache')
    (calls calls' : List Call) (node : Json) (file : Path) (settled : library.Settles file) :
    let once := (((ofCache cache).serve library.files calls).resolveTree library.files node file).1
    let twice := (((ofCache cache').serve library.files calls').resolveTree library.files once file).1
    (twice = once ↔ ∀ left, once.Exposes left → library.Rests file left) ∧
      (library.StaysIn file →
        (∀ document, library.document? file = some document → document.Everywhere KeepsShape) →
          node.Everywhere KeepsShape → twice = once) := by
  intro once twice
  have first : library.Unfolds [] file node once :=
    unfolds_resolveTree _ (serve_expanding library.files calls _ rfl)
      (serve_cache library.explains_get calls (ofCache cache) rfl explained) node file settled
  have second : library.Unfolds [] file once twice :=
    unfolds_resolveTree _ (serve_expanding library.files calls' _ rfl)
      (serve_cache library.explains_get calls' (ofCache cache') rfl explained') once file settled
  have criterion : twice = once ↔ ∀ left, once.Exposes left → library.Rests file left := by
    have self : twice = once ↔ library.Unfolds [] file once once :=
      ⟨fun same => same ▸ second, second.unique⟩
    rw [self, unfolds_self_iff]
    refine forall₂_congr fun left exposes => ?_
    obtain ⟨text, refers⟩ := exposes.reference
    exact unfolds_self_iff_rests refers
  refine ⟨criterion, fun stays shapes shape => criterion.mpr ?_⟩
  exact fun left exposes => first.rests stays shapes shape exposes

end Resolver

namespace RecursiveSchema

open Library Resolver

/-- A recursive schema resolves to the same tree twice, as the reference that is left has a mark. -/
theorem resolveTree_again_recursive_schema :
    library.Explains cache ∧ library.Settles ⟨"/tree.json"⟩ ∧
      let once := ((ofCache cache).resolveTree library.files
        (.object [("$ref", .string "#/alias")]) ⟨"/tree.json"⟩).1
      ((ofCache cache).resolveTree library.files once ⟨"/tree.json"⟩).1 = once := by
  have explained : library.Explains cache := explains_inserted library.files library.inserted
  have settled : library.Settles ⟨"/tree.json"⟩ :=
    library.settles_of_endsInName ⟨"/tree.json"⟩ (by rfl)
  refine ⟨explained, settled, ?_⟩
  intro once
  have result : once = .object [("child", .object [("$ref", .string "#/alias"),
      ("x-recursive-ref", .string "/tree.json#/node")])] :=
    (unfolds_resolveTree (ofCache cache) rfl explained _ _ settled).unique unfolds
  refine (resolveTree_again_iff library cache cache explained explained [] []
    (.object [("$ref", .string "#/alias")]) ⟨"/tree.json"⟩ settled).1.mpr ?_
  intro left exposes text refers unmarked
  change once.Exposes left at exposes
  rw [result] at exposes
  obtain ⟨child, member, inside⟩ := exposes.of_concrete (by rfl)
  cases List.mem_singleton.mp member
  cases inside.of_reference (show _ = some "#/alias" by rfl)
  cases unmarked

end RecursiveSchema

namespace ForeignReference

open Library Resolver

/-- A schema whose reference is broken in its own file. -/
def model : Json :=
  .object [("item", .object [("field", .object [("$ref", .string "#/name")])])]

/-- A file in which the same reference leads somewhere. -/
def spec : Json := .object [("name", .object [("type", .string "string")])]

/-- Two files in the root directory, with documents in their places. -/
def library : Library where
  files := ⟨[(⟨"model.json", by decide⟩, .file []), (⟨"spec.json", by decide⟩, .file [])], []⟩
  inserted := [(⟨"/model.json"⟩, model), (⟨"/spec.json"⟩, spec)]

def cache : DocumentCache := ⟨[(⟨"/model.json"⟩, some model), (⟨"/spec.json"⟩, some spec)]⟩

def node : Json := .object [("$ref", .string "model.json#/item")]

def once : Json := .object [("field", .object [("$ref", .string "#/name")])]

def twice : Json := .object [("field", .object [("type", .string "string")])]

theorem canonical?_model : library.files.canonical? ⟨"/model.json"⟩ = some ⟨"/model.json"⟩ := by
  have stands : library.files.Stands ["model.json"] := ⟨.file [], by rfl, nofun⟩
  exact library.files.canonical?_pathOf ["model.json"] stands

theorem land?_node :
    library.land? ⟨"model.json#/item", ⟨"/spec.json"⟩, library.document? ⟨"/spec.json"⟩⟩ =
      some ⟨⟨"/model.json"⟩, model, "/item", once⟩ := by
  have read : Reference.ofString? "model.json#/item" = some (.inFile "model.json" "/item") := by rfl
  have beside : ((⟨"/spec.json"⟩ : Path).parent?.getD ⟨"."⟩).join ⟨"model.json"⟩ =
      ⟨"/model.json"⟩ := by
    rfl
  simp only [land?, read, enter?, beside, canonical?_model]
  rfl

/-- The node gives way to the schema of the other file, with the broken reference in it. -/
theorem unfolds_node : library.Unfolds [] ⟨"/spec.json"⟩ node once := by
  have leads : library.Leads ⟨"model.json#/item", ⟨"/spec.json"⟩, library.document? ⟨"/spec.json"⟩⟩
      ⟨once, ⟨"/model.json"⟩, "/item"⟩ := ⟨0, _, _, rfl, land?_node, by rfl, rfl⟩
  have broken : library.land? ⟨"#/name", ⟨"/model.json"⟩, library.document? ⟨"/model.json"⟩⟩ =
      none := by
    rfl
  have left : library.Unfolds [⟨⟨"/model.json"⟩, "item"⟩] ⟨"/model.json"⟩
      (.object [("$ref", .string "#/name")]) (.object [("$ref", .string "#/name")]) := by
    refine .unresolved _ _ _ "#/name" (by rfl) (by rfl) fun resolved reaches => ?_
    refine library.not_fails_of_leads _ resolved reaches (.inl ⟨0, _, rfl, ?_⟩)
    exact (library.land?_eq_none _).mp broken
  have inside : library.UnfoldsEach [⟨⟨"/model.json"⟩, "item"⟩] ⟨"/model.json"⟩ once.children
      [.object [("$ref", .string "#/name")]] := .cons left ⟨rfl, nofun⟩
  exact .expanded _ _ _ _ _ _ (by rfl) (by rfl) leads (by rfl)
    (.inner _ _ once _ (by rfl) inside.1 inside.2)

/-- Read again, the reference that was left leads to a node of the first file. -/
theorem unfolds_once : library.Unfolds [] ⟨"/spec.json"⟩ once twice := by
  have leads : library.Leads ⟨"#/name", ⟨"/spec.json"⟩, library.document? ⟨"/spec.json"⟩⟩
      ⟨.object [("type", .string "string")], ⟨"/spec.json"⟩, "/name"⟩ :=
    ⟨0, _, ⟨⟨"/spec.json"⟩, spec, "/name", .object [("type", .string "string")]⟩, rfl, by rfl,
      by rfl, rfl⟩
  have text : library.Unfolds [⟨⟨"/spec.json"⟩, "name"⟩] ⟨"/spec.json"⟩ (.string "string")
      (.string "string") := .inner _ _ (.string "string") [] (by rfl) (by rfl) nofun
  have inside : library.UnfoldsEach [⟨⟨"/spec.json"⟩, "name"⟩] ⟨"/spec.json"⟩
      (Json.object [("type", .string "string")]).children [.string "string"] :=
    .cons text ⟨rfl, nofun⟩
  have given : library.Unfolds [] ⟨"/spec.json"⟩ (.object [("$ref", .string "#/name")])
      (.object [("type", .string "string")]) :=
    .expanded _ _ _ _ _ _ (by rfl) (by rfl) leads (by rfl)
      (.inner _ _ _ _ (by rfl) inside.1 inside.2)
  have outside : library.UnfoldsEach [] ⟨"/spec.json"⟩ once.children
      [.object [("type", .string "string")]] := .cons given ⟨rfl, nofun⟩
  exact .inner _ _ once _ (by rfl) outside.1 outside.2

/-- A reference that is broken in the file it comes from is followed in another one, when the tree
is resolved again. -/
theorem resolveTree_again_differs :
    let first := (ofCache cache).resolveTree library.files node ⟨"/spec.json"⟩
    let second := first.2.resolveTree library.files first.1 ⟨"/spec.json"⟩
    library.Explains cache ∧ library.Settles ⟨"/spec.json"⟩ ∧ first.1 = once ∧ second.1 = twice ∧
      second.1 ≠ first.1 := by
  intro first second
  have explained : library.Explains cache := explains_inserted library.files library.inserted
  have settled : library.Settles ⟨"/spec.json"⟩ :=
    library.settles_of_endsInName ⟨"/spec.json"⟩ (by rfl)
  have runs := runs_resolveTree library.files node ⟨"/spec.json"⟩ (ofCache cache) rfl
  have given : first.1 = once :=
    (unfolds_resolveTree (ofCache cache) rfl explained _ _ settled).unique unfolds_node
  have again : second.1 = twice := by
    have unfolds := unfolds_resolveTree first.2 runs.expanding
      (runs.cache library.explains_get explained) first.1 ⟨"/spec.json"⟩ settled
    exact unfolds.unique (given.symm ▸ unfolds_once)
  refine ⟨explained, settled, given, again, ?_⟩
  rw [given, again]
  simp [once, twice]

end ForeignReference

end ApiContract
