import ApiContract.Proofs.Schema.Opening
import ApiContract.Proofs.Traversal

/-
This file proves that leaving references in a schema adds no fault to its identifiers: every inner
schema is empty, or stands in the filled schema as well.
-/

namespace ApiContract

namespace Json

variable {node node' : Json}

/-- Whether a document is another one with empty objects in some places, apart from its root. -/
def Alike (node node' : Json) : Prop :=
  Opens .free node node' ∧ List.Forall₂ (Table.SameKey fun _ => Opens .free) node.members node'.members

/-- A node in a free place is alike to the filled one, unless it is empty. -/
theorem Opens.alike (opens : Opens .free node node') : node = Json.object [] ∨ node.Alike node' :=
  opens.members.imp_right fun members => ⟨opens, members⟩

/-- Nodes that are alike have alike members. -/
theorem Alike.member? (alike : node.Alike node') (key : String) :
    Option.Rel (Opens .free) (node.member? key) (node'.member? key) := by
  rw [member?_eq, member?_eq]
  exact Table.lookup_rel alike.2 key

/-- Alike documents have the same texts under the same keys. -/
theorem Alike.text? (alike : node.Alike node') (key : String) :
    (node.member? key).bind string? = (node'.member? key).bind string? := by
  have found := alike.member? key
  generalize node.member? key = value, node'.member? key = value' at found ⊢
  cases found with
  | none => rfl
  | some opens => exact opens.string?

/-- Nodes that are alike have the same keys. -/
theorem Alike.isSome (alike : node.Alike node') (key : String) :
    (node.member? key).isSome = (node'.member? key).isSome := by
  have found := alike.member? key
  generalize node.member? key = value, node'.member? key = value' at found ⊢
  cases found <;> rfl

end Json

namespace SchemaIdentifier

open Json

variable {node node' : Json}

/-- Nodes that are alike are read in the same draft. -/
theorem inside_alike (draft : Draft) (alike : node.Alike node') :
    draft.inside node = draft.inside node' := by
  unfold Draft.inside Draft.asked?
  rw [alike.text?]

/-- Nodes that are alike declare the same identifier. -/
theorem declared?_alike (draft : Draft) (alike : node.Alike node') :
    declared? draft node = declared? draft node' := by
  unfold declared?
  rw [alike.text?, alike.isSome]

/-- Whether a place has the identifier and the draft of another, and its schema with references
left. -/
structure Mirrors (place place' : Place) : Prop where
  base : place.base = place'.base
  draft : place.draft = place'.draft
  opens : Opens .free place.schema place'.schema

/-- Whether a place has an empty schema or mirrors one of some places. -/
def Known (places : List Place) (place : Place) : Prop :=
  place.schema = .object [] ∨ ∃ place' ∈ places, Mirrors place place'

/-- An empty schema keeps the place that it stands in. -/
theorem inner_empty (outer : Place) :
    outer.inner (.object []) = .ok ⟨outer.base, outer.draft, .object []⟩ := by
  rfl

/-- An inner schema can be identified if the filled one can. -/
theorem inner_of_opens {outer outer' place' : Place} (mirrors : Mirrors outer outer')
    (opens : Opens .free node node') (identified : outer'.inner node' = .ok place') :
    ∃ place, outer.inner node = .ok place ∧ (place.schema = .object [] ∨ Mirrors place place') := by
  rcases opens.alike with rfl | alike
  · exact ⟨_, inner_empty outer, .inl rfl⟩
  · unfold Place.inner at identified ⊢
    rw [mirrors.draft, mirrors.base, inside_alike _ alike]
    split at identified
    · cases identified
    · next draft asked =>
        rw [declared?_alike draft alike]
        split at identified
        · cases identified
          exact ⟨_, rfl, .inr ⟨rfl, rfl, opens⟩⟩
        · obtain ⟨base, resolved, last⟩ := (bind_eq_ok_iff _ _ _).mp identified
          cases last
          exact ⟨⟨base, draft, node⟩, (bind_eq_ok_iff _ _ _).mpr ⟨base, resolved, rfl⟩,
            .inr ⟨rfl, rfl, opens⟩⟩

/-- Each schema inside a value stands in the filled value as well. -/
theorem schemas_of_opens (holding : Holding) (opens : Opens .free node node') :
    ∀ schema ∈ holding.schemas node, ∃ schema' ∈ holding.schemas node',
      Opens .free schema schema' := by
  have own : ∀ schema ∈ [node], ∃ schema' ∈ [node'], Opens .free schema schema' :=
    List.forall_mem_singleton.mpr ⟨node', .head _, opens⟩
  have items : ∀ schema ∈ node.items, ∃ schema' ∈ node'.items, Opens .free schema schema' := by
    cases opens with
    | opened => exact nofun
    | plain _ _ noItems =>
        rw [noItems]
        exact nofun
    | array _ _ _ same each => exact exists_of_forall₂ (Table.forall₂_of_getElem? same each)
    | object => exact nofun
  cases holding with
  | one => exact own
  | list => exact items
  | named =>
      rcases opens.members with rfl | members
      · exact nofun
      · refine List.forall_mem_map.mpr fun member inside => ?_
        obtain ⟨member', inside', -, related⟩ := exists_of_forall₂ members member inside
        exact ⟨member'.2, List.mem_map.mpr ⟨member', inside', rfl⟩, related⟩
  | oneOrList =>
      cases opens with
      | opened _ _ _ shaped =>
          cases node' with
          | array => cases shaped
          | _ => exact own
      | plain =>
          cases node with
          | array => exact items
          | _ => exact own
      | array => exact items
      | object => exact own

/-- The schemas directly inside a known place are known among those that the filled places hold. -/
theorem inners_of_known {places : List Place} {inners' : List (List Place)} {place : Place}
    (known : Known places place) (identified : places.mapM Place.inners = .ok inners') :
    ∃ inners, place.inners = .ok inners ∧ ∀ inner ∈ inners, Known inners'.flatten inner := by
  rcases known with empty | ⟨place', member, mirrors⟩
  · refine ⟨[], ?_, fun _ absent => by cases absent⟩
    rw [Place.inners, empty]
    rfl
  · obtain ⟨list', listed, inside⟩ := exists_of_mapM identified member
    have each : ∀ schema ∈ (place.schema.members.flatMap fun entry =>
        (holding? place.draft entry.1).elim [] (·.schemas entry.2)),
          ∃ inner, place.inner schema = .ok inner ∧ Known inners'.flatten inner := by
      intro schema listedSchema
      obtain ⟨⟨keyword, value⟩, held, among⟩ := List.mem_flatMap.mp listedSchema
      rcases mirrors.opens.members with empty | members
      · rw [empty] at held
        cases held
      · obtain ⟨⟨keyword', value'⟩, held', same, opens⟩ := exists_of_forall₂ members _ held
        obtain rfl : keyword = keyword' := same
        dsimp only at among
        cases holds : holding? place.draft keyword with
        | none =>
            rw [holds] at among
            cases among
        | some holding =>
            rw [holds] at among
            obtain ⟨schema', among', opensSchema⟩ := schemas_of_opens holding opens schema among
            have listed' : schema' ∈ (place'.schema.members.flatMap fun entry =>
                (holding? place'.draft entry.1).elim [] (·.schemas entry.2)) := by
              refine List.mem_flatMap.mpr ⟨(keyword, value'), held', ?_⟩
              dsimp only
              rw [← mirrors.draft, holds]
              exact among'
            obtain ⟨inner', found, placed⟩ := exists_of_mapM inside listed'
            obtain ⟨inner, made, state⟩ := inner_of_opens mirrors opensSchema placed
            refine ⟨inner, made, state.imp_right fun mirror => ⟨inner', ?_, mirror⟩⟩
            exact List.mem_flatten.mpr ⟨list', listed, found⟩
    exact mapM_of_forall each

theorem identifyAll_nil (bound : Nat) : identifyAll bound [] = .ok () := by
  cases bound <;> rfl

/-- Known places can be identified as deep as the places that they are known among. -/
theorem identifyAll_of_known (bound bound' : Nat) (least : bound ≤ bound')
    (places places' : List Place) (known : ∀ place ∈ places, Known places' place)
    (identified : identifyAll bound' places' = .ok ()) :
    identifyAll bound places = .ok () := by
  induction bound generalizing bound' places places' with
  | zero => rfl
  | succ bound ih =>
      obtain ⟨bound', rfl⟩ : ∃ other, bound' = other + 1 := ⟨bound' - 1, by omega⟩
      rw [identifyAll] at identified ⊢
      obtain ⟨inners', listed', onward⟩ := (bind_eq_ok_iff _ _ _).mp identified
      obtain ⟨inners, listed, inside⟩ := mapM_of_forall fun place member =>
        inners_of_known (known place member) listed'
      have deeper : identifyAll bound' inners'.flatten = .ok () := by
        split at onward
        · next empty =>
            rw [List.isEmpty_iff.mp empty]
            exact identifyAll_nil bound'
        · exact onward
      have known' : ∀ place ∈ inners.flatten, Known inners'.flatten place := by
        intro place member
        obtain ⟨list, among, held⟩ := List.mem_flatten.mp member
        exact inside list among place held
      refine (bind_eq_ok_iff _ _ _).mpr ⟨inners, listed, ?_⟩
      split
      · rfl
      · exact ih bound' (by omega) inners.flatten inners'.flatten known' deeper

/-- The identifier of a document, from its own text. -/
def ownBase (document : Json) : Except Fault Uri :=
  match declared? .draft7 document with
  | none => .ok Uri.root
  | some text => documentBase text >>= fun base => resolve base text

/-- Resolves the name of the draft of a document against its identifier. -/
def resolveDraft (document : Json) (base : Uri) : Except Fault Unit :=
  match Draft.asked? document with
  | none => .ok ()
  | some name =>
      if !(base.scheme == some "urn".toList || Draft.isOwnName name ||
          Text.startsWith name "#") then
        resolve base name >>= fun _ => .ok ()
      else .ok ()

/-- The place of a document has its own base, if its draft can be told. -/
theorem documentPlace_eq (document : Json) :
    documentPlace document = ownBase document >>= fun base =>
      resolveDraft document base >>= fun _ => .ok ⟨base, .draft7, document⟩ := by
  have named (base : Uri) : (match Draft.asked? document with
      | none => .ok ⟨base, .draft7, document⟩
      | some name =>
          if !(base.scheme == some "urn".toList || Draft.isOwnName name ||
              Text.startsWith name "#") then
            resolve base name >>= fun _ => .ok ⟨base, .draft7, document⟩
          else .ok ⟨base, .draft7, document⟩ : Except Fault Place) =
        resolveDraft document base >>= fun _ => .ok ⟨base, .draft7, document⟩ := by
    unfold resolveDraft
    cases Draft.asked? document with
    | none => rfl
    | some name =>
        dsimp only
        split
        · cases resolve base name <;> rfl
        · rfl
  unfold documentPlace ownBase
  cases declared? .draft7 document with
  | none => exact named Uri.root
  | some text =>
      dsimp only
      cases documentBase text with
      | error fault => rfl
      | ok own =>
          dsimp only [bind, Except.bind]
          cases resolve own text with
          | error fault => rfl
          | ok base => exact named base

/-- The identifier of a whole document is found as for the filled document. -/
theorem documentPlace_of_opens {place' : Place} (opens : Opens .free node node')
    (identified : documentPlace node' = .ok place') :
    ∃ place, documentPlace node = .ok place ∧ Known [place'] place := by
  rcases opens.alike with rfl | alike
  · exact ⟨⟨Uri.root, .draft7, .object []⟩, rfl, .inl rfl⟩
  · have asked : Draft.asked? node = Draft.asked? node' := alike.text? "$schema"
    rw [documentPlace_eq] at identified
    obtain ⟨base, based, onward⟩ := (bind_eq_ok_iff _ _ _).mp identified
    obtain ⟨_, named, last⟩ := (bind_eq_ok_iff _ _ _).mp onward
    cases last
    rw [ownBase, ← declared?_alike _ alike, ← ownBase] at based
    rw [resolveDraft, ← asked, ← resolveDraft] at named
    refine ⟨⟨base, .draft7, node⟩, ?_, .inr ⟨_, .head _, rfl, rfl, opens⟩⟩
    rw [documentPlace_eq, bind_eq_ok_iff]
    exact ⟨base, based, (bind_eq_ok_iff _ _ _).mpr ⟨_, named, rfl⟩⟩

end SchemaIdentifier

namespace SchemaDialect

open Json

variable {slot : Slot} {node node' : Json}

/-- Items that are no higher make no higher array. -/
theorem itemsHeight_le {items items' : List Json}
    (each : List.Forall₂ (fun item item' => height item ≤ height item') items items') :
    itemsHeight items ≤ itemsHeight items' := by
  induction each with
  | nil => exact le_refl _
  | cons first _ ih =>
      rw [itemsHeight, itemsHeight]
      exact max_le_max first ih

/-- Values that are no higher make no higher object. -/
theorem membersHeight_le {members members' : List (String × Json)}
    (each : List.Forall₂ (fun member member' => height member.2 ≤ height member'.2) members
      members') : membersHeight members ≤ membersHeight members' := by
  induction each with
  | nil => exact le_refl _
  | cons first _ ih =>
      rw [membersHeight, membersHeight]
      exact max_le_max first ih

/-- Every node has a height. -/
theorem one_le_height (node : Json) : 1 ≤ height node := by
  cases node <;> simp [height]

/-- Leaving references makes a document no higher. -/
theorem height_le_of_opens (opens : Opens slot node node') : height node ≤ height node' := by
  induction opens with
  | opened _ filler => exact one_le_height filler
  | plain => exact le_refl _
  | array _ items items' same _ ih =>
      rw [height, height]
      exact Nat.add_le_add_left (itemsHeight_le (Table.forall₂_of_getElem? same ih)) 1
  | object _ members members' keys _ ih =>
      have lengths := congrArg List.length keys
      rw [List.length_map, List.length_map] at lengths
      rw [height, height]
      exact Nat.add_le_add_left (membersHeight_le (Table.forall₂_of_getElem? lengths ih)) 1

end SchemaDialect

namespace SchemaIdentifier

open Json

variable {node node' : Json}

/-- The identifiers of a schema with references left have no fault if those of the filled one have
none. -/
theorem firstFault?_of_opens (opens : Opens .free node node')
    (sound : firstFault? (SchemaDialect.height node') node' = none) :
    firstFault? (SchemaDialect.height node) node = none := by
  unfold firstFault? at sound ⊢
  have held : (documentPlace node' >>= fun place =>
      identifyAll (SchemaDialect.height node') [place]) = .ok () := by
    split at sound
    · next identified => exact identified
    · cases sound
  obtain ⟨place', rooted, identified⟩ := (bind_eq_ok_iff _ _ _).mp held
  obtain ⟨place, found, known⟩ := documentPlace_of_opens opens rooted
  have result := identifyAll_of_known _ _ (SchemaDialect.height_le_of_opens opens) [place] [place']
    (List.forall_mem_singleton.mpr known) identified
  rw [(bind_eq_ok_iff _ _ _).mpr ⟨place, found, result⟩]

end SchemaIdentifier

end ApiContract
