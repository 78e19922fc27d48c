import ApiContract.Proofs.Resolver.Count
import ApiContract.Proofs.Schema.Opening

/-
This file proves what taking the references out of a document does to it: no reference is left at any
depth, and what stands beside the references stays as it is. A place in a document is given here by
the positions of its steps, each of them among the children of the node before.
-/

namespace ApiContract

namespace Json

/-- The node at a place of a document. -/
def descendant? (document : Json) (place : List Nat) : Option Json :=
  place.foldlM (fun node position => node.children[position]?) document

/-- A node with nothing in the place of its children. What is left is its kind and its value, or its
keys in their order, or its length. -/
def frame (node : Json) : Json := node.withChildren (node.children.map fun _ => null)

/-- Whether a reference stands at a place, and none above it. -/
structure TopmostReference (document : Json) (place : List Nat) : Prop where
  refers : ∃ node, document.descendant? place = some node ∧ node.reference?.isSome = true
  topmost : ∀ above, above <+: place → above ≠ place →
    ∀ node, document.descendant? above = some node → node.reference? = none

/-- Of two replacements of all children the last one counts. -/
theorem withChildren_withChildren (node : Json) (trees others : List Json)
    (same : trees.length = node.children.length) :
    (node.withChildren trees).withChildren others = node.withChildren others := by
  cases node with
  | object members =>
      rw [children, List.length_map] at same
      have kept : ((members.map (·.1)).zip trees).map (·.1) = members.map (·.1) :=
        List.map_fst_zip (by rw [List.length_map, same])
      exact congrArg (fun keys => object (keys.zip others)) kept
  | _ => rfl

/-- The frame of a node does not depend on its children. -/
theorem frame_withChildren (node : Json) (trees : List Json)
    (same : trees.length = node.children.length) : (node.withChildren trees).frame = node.frame := by
  rw [frame, node.withChildren_withChildren trees _ same, node.children_withChildren trees same,
    frame, List.map_const', List.map_const', same]

/-- A descendant is found in the child that its place starts with. -/
theorem descendant?_cons (document : Json) (position : Nat) (place : List Nat) :
    document.descendant? (position :: place) =
      document.children[position]?.bind fun child => child.descendant? place := rfl

section Concrete

variable {node : Json} (concrete : node.reference? = none)

include concrete

/-- A node that is no reference only has its children stripped. -/
theorem stripReferences_of_concrete :
    node.stripReferences = node.withChildren (node.children.map stripReferences) := by
  cases node with
  | array items => exact stripReferences_array items
  | object members =>
      have keyed : (members.map (·.1)).zip ((members.map (·.2)).map stripReferences) =
          members.map fun member => (member.1, member.2.stripReferences) := by
        rw [List.map_map, List.zip_map']
        rfl
      rw [stripReferences_object concrete, children, withChildren, keyed]
  | _ => rfl

/-- A concrete node without its references has its children without theirs. -/
theorem children_stripReferences :
    node.stripReferences.children = node.children.map stripReferences := by
  rw [stripReferences_of_concrete concrete]
  exact node.children_withChildren _ (List.length_map _)

/-- A concrete node without its references keeps its frame. -/
theorem frame_stripReferences : node.stripReferences.frame = node.frame := by
  rw [stripReferences_of_concrete concrete]
  exact node.frame_withChildren _ (List.length_map _)

/-- Stripping makes no reference of what is none: a text stays a text, and nothing else becomes
one. -/
theorem reference?_stripReferences : node.stripReferences.reference? = none := by
  rw [stripReferences_of_concrete concrete]
  refine reference?_withChildren concrete ?_
  rw [List.map_map]
  exact List.map_congr_left fun child _ => child.string?_stripReferences

end Concrete

/-- No reference is left, also not below a `$ref` member that is no text. -/
theorem everywhere_stripReferences (document : Json) :
    document.stripReferences.Everywhere fun node => node.reference? = none := by
  induction document using children_induction with
  | step node ih =>
      cases refers : node.reference? with
      | some text =>
          rw [stripReferences_reference refers]
          exact .intro _ rfl nofun
      | none =>
          refine .intro _ (reference?_stripReferences refers) ?_
          rw [children_stripReferences refers]
          exact List.forall_mem_map.mpr ih

/-- Looking for references finds none exactly where every node is concrete. -/
theorem hasReference_eq_false_iff (document : Json) :
    document.hasReference = false ↔ document.Everywhere fun node => node.reference? = none := by
  induction document using children_induction with
  | step node ih =>
      rw [everywhere_iff]
      cases refers : node.reference? with
      | some text => simp [hasReference_of_reference refers]
      | none =>
          rw [hasReference_of_concrete refers, List.any_eq_false, and_iff_right rfl]
          simpa using forall₂_congr ih

/-- A document without its references has none left to lose. -/
theorem stripReferences_again (document : Json) :
    document.stripReferences.stripReferences = document.stripReferences :=
  stripReferences_of_hasReference _
    ((hasReference_eq_false_iff _).mpr document.everywhere_stripReferences)

/-- A document whose root is no topmost reference is no reference itself. -/
theorem concrete_of_root {document : Json} (clear : ¬ document.TopmostReference []) :
    document.reference? = none := by
  rw [← Option.not_isSome_iff_eq_none]
  intro refers
  refine clear ⟨⟨document, rfl, refers⟩, fun above before other => ?_⟩
  exact absurd (List.prefix_nil.mp before) other

/-- A reference below a concrete node is topmost in the document if it is so in its branch. -/
theorem TopmostReference.cons {document child : Json} {position : Nat} {place : List Nat}
    (concrete : document.reference? = none) (here : document.children[position]? = some child)
    (inner : child.TopmostReference place) : document.TopmostReference (position :: place) := by
  obtain ⟨⟨node, found, refers⟩, topmost⟩ := inner
  refine ⟨⟨node, by rw [descendant?_cons, here]; exact found, refers⟩, ?_⟩
  rintro above before other node' found'
  cases above with
  | nil =>
      cases found'
      exact concrete
  | cons first rest =>
      obtain ⟨rfl, within⟩ := List.cons_prefix_cons.mp before
      rw [descendant?_cons, here] at found'
      exact topmost rest within (fun same => other (congrArg _ same)) node' found'

/-- A topmost reference is the document itself, or topmost in one of its branches. -/
theorem TopmostReference.cons_inv {document : Json} {position : Nat} {place : List Nat}
    (topmost : document.TopmostReference (position :: place)) :
    document.reference? = none ∧ ∃ child, document.children[position]? = some child ∧
      child.TopmostReference place := by
  obtain ⟨⟨node, found, refers⟩, above⟩ := topmost
  have concrete := above [] List.nil_prefix (List.cons_ne_nil _ _).symm document rfl
  rw [descendant?_cons] at found
  obtain ⟨child, here, found⟩ := Option.bind_eq_some_iff.mp found
  refine ⟨concrete, child, here, ⟨node, found, refers⟩, fun between before other node' found' => ?_⟩
  refine above (position :: between) (List.cons_prefix_cons.mpr ⟨rfl, before⟩) ?_ node' ?_
  · exact fun same => other (List.cons.inj same).2
  · rw [descendant?_cons, here]
    exact found'

/-- In the place of each topmost reference there is the empty object. -/
theorem descendant?_of_topmost {document : Json} {place : List Nat}
    (topmost : document.TopmostReference place) :
    document.stripReferences.descendant? place = some (object []) := by
  induction place generalizing document with
  | nil =>
      obtain ⟨node, found, refers⟩ := topmost.refers
      cases found
      obtain ⟨text, refers⟩ := Option.isSome_iff_exists.mp refers
      exact congrArg some (stripReferences_reference refers)
  | cons position place ih =>
      obtain ⟨concrete, child, here, inner⟩ := topmost.cons_inv
      rw [descendant?_cons, children_stripReferences concrete, List.getElem?_map, here]
      exact ih inner

/-- Where no reference stands on the way, the node is there as before, with the same frame. -/
theorem frame_of_clear {document : Json} {place : List Nat}
    (clear : ∀ above, above <+: place → ¬ document.TopmostReference above) :
    (document.stripReferences.descendant? place).map frame =
      (document.descendant? place).map frame := by
  induction place generalizing document with
  | nil =>
      have concrete := concrete_of_root (clear [] List.nil_prefix)
      exact congrArg some (frame_stripReferences concrete)
  | cons position place ih =>
      have concrete := concrete_of_root (clear [] List.nil_prefix)
      rw [descendant?_cons, descendant?_cons, children_stripReferences concrete, List.getElem?_map]
      cases here : document.children[position]? with
      | none => rfl
      | some child =>
          exact ih fun above before inner =>
            clear (position :: above) (List.cons_prefix_cons.mpr ⟨rfl, before⟩)
              (inner.cons concrete here)

/-- Taking the references out of a document leaves none at any depth, and changes nothing but the
topmost references, which become empty objects. -/
theorem withoutReferences_complete_minimal (document : Json) :
    document.withoutReferences = document.stripReferences ∧
      document.withoutReferences.Everywhere (fun node => node.reference? = none) ∧
      Schema.ofDocument document = Schema.ofDocument document.withoutReferences ∧
      document.withoutReferences.withoutReferences = document.withoutReferences ∧
      (∀ place, document.TopmostReference place →
        document.withoutReferences.descendant? place = some (object [])) ∧
      ∀ place, (∀ above, above <+: place → ¬ document.TopmostReference above) →
        (document.withoutReferences.descendant? place).map frame =
          (document.descendant? place).map frame := by
  have again : document.withoutReferences.withoutReferences = document.withoutReferences := by
    rw [withoutReferences_eq, withoutReferences_eq, stripReferences_again]
  have compiled : Schema.ofDocument document = Schema.ofDocument document.withoutReferences := by
    rw [Schema.ofDocument, Schema.ofDocument, again]
  refine ⟨document.withoutReferences_eq, ?_, compiled, again, ?_⟩
  · rw [withoutReferences_eq]
    exact document.everywhere_stripReferences
  · rw [withoutReferences_eq]
    exact ⟨fun _ => descendant?_of_topmost, fun _ => frame_of_clear⟩

/-- A member named `$ref` that is no text makes no reference, but may hold one. -/
example : withoutReferences (object [("$ref", object [("$ref", string "#/name")]),
      ("type", string "object")]) = object [("$ref", object []), ("type", string "object")] := by
  rfl

end Json

end ApiContract
