import ApiContract.Proofs.Route.Template
import ApiContract.Proofs.Text.Decimal

/-
This file proves how a call finds its path: the prefix of the interface, the query and the fragment
are cut off, and the spelling of the method does not matter. It also proves that the keys of responses
do not run into one another or into those of requests.
-/

namespace ApiContract

/-- Whether no query and no fragment starts in a text. -/
def IsPlain (text : String) : Prop := '?' ∉ text.toList ∧ '#' ∉ text.toList

/-- Whether a text is nothing, or the query or the fragment of an endpoint. -/
def IsTail (text : String) : Prop := ∀ first ∈ text.toList.head?, first = '?' ∨ first = '#'

theorem isPlain_append {first second : String} (plain : IsPlain first) (plain' : IsPlain second) :
    IsPlain (first ++ second) := by
  simp only [IsPlain, String.toList_append, List.mem_append, not_or]
  exact ⟨⟨plain.1, plain'.1⟩, plain.2, plain'.2⟩

/-- A plain text stays plain if its end is trimmed. -/
theorem isPlain_trimMarkEnd {text : String} (mark : Char) (plain : IsPlain text) :
    IsPlain (Text.trimMarkEnd mark text) := by
  have subset (character : Char) (member : character ∈ (Text.trimMarkEnd mark text).toList) :
      character ∈ text.toList := by
    rw [Text.trimMarkEnd, String.toList_ofList, List.mem_reverse] at member
    exact List.mem_reverse.mp ((List.dropWhile_sublist _).subset member)
  exact ⟨fun member => plain.1 (subset _ member), fun member => plain.2 (subset _ member)⟩

/-- What comes before the query and the fragment is the plain start of a text. -/
theorem takeWhile_plain (start tail : String) (plain : IsPlain start) (ends : IsTail tail) :
    String.ofList ((start ++ tail).toList.takeWhile fun character =>
      character != '?' && character != '#') = start := by
  have inside : ∀ character ∈ start.toList, (character != '?' && character != '#') = true := by
    intro character member
    simp only [Bool.and_eq_true, bne_iff_ne]
    exact ⟨fun same => plain.1 (same ▸ member), fun same => plain.2 (same ▸ member)⟩
  have cut : tail.toList.takeWhile (fun character => character != '?' && character != '#') = [] := by
    cases characters : tail.toList with
    | nil => rfl
    | cons first rest =>
        rw [IsTail, characters] at ends
        rcases ends first rfl with rfl | rfl <;> rfl
  rw [String.toList_append, List.takeWhile_append_of_pos inside, cut, List.append_nil,
    String.ofList_toList]

/-- A path below the prefix of the interface is found again, whatever query or fragment follows. -/
theorem endpointPath_prefixed (apiPrefix path tail : String) (plainPrefix : IsPlain apiPrefix)
    (plain : IsPlain path) (absolute : Text.startsWith path "/" = true) (ends : IsTail tail) :
    endpointPath (Text.trimMarkEnd '/' apiPrefix ++ path ++ tail) apiPrefix = path := by
  have whole := takeWhile_plain (Text.trimMarkEnd '/' apiPrefix ++ path) tail
    (isPlain_append (isPlain_trimMarkEnd '/' plainPrefix) plain) ends
  unfold endpointPath
  dsimp only
  rw [whole]
  split
  · next empty => rw [String.isEmpty_iff.mp empty, String.empty_append]
  · have rest := Text.stripStart_append (Text.trimMarkEnd '/' apiPrefix) path
    have present : path.isEmpty = false := by
      rw [Bool.eq_false_iff]
      intro empty
      rw [String.isEmpty_iff.mp empty] at absolute
      cases absolute
    rw [rest]
    dsimp only
    rw [present, if_neg Bool.false_ne_true, absolute, if_pos rfl]

namespace PathTemplate

/-- An instance of an absolute template is absolute. -/
theorem startsWith_instantiate (template : String) (values : Nat → String)
    (absolute : Text.startsWith template "/" = true) :
    Text.startsWith (instantiate template values) "/" = true := by
  obtain ⟨rest, text⟩ := List.isPrefixOf_iff_prefix.mp absolute
  have parts : Text.split '/' template = "" :: Text.split '/' (String.ofList rest) :=
    Text.split_between '/' template "" (String.ofList rest) (by rw [← text]; simp)
  have others : ((Text.split '/' (String.ofList rest)).mapIdx
      fun index part => Segment.fill part (values (index + 1))) ≠ [] :=
    fun empty => Text.split_ne_nil '/' _ (List.mapIdx_eq_nil_iff.mp empty)
  rw [instantiate, parts, List.mapIdx_cons, String.intercalate_cons_of_ne_nil others]
  simp [Text.startsWith, Segment.fill, Segment.ofString]

/-- An instance of a plain template with plain values is plain. -/
theorem isPlain_instantiate (template : String) (values : Nat → String)
    (clean : ∀ index, '/' ∉ (values index).toList) (plain : IsPlain template)
    (plainValues : ∀ index, IsPlain (values index)) : IsPlain (instantiate template values) := by
  have absent (character : Char) (other : character ≠ '/') (free : character ∉ template.toList)
      (free' : ∀ index, character ∉ (values index).toList) :
      character ∉ (instantiate template values).toList := by
    rw [Text.mem_iff_mem_split '/' character _ other, split_instantiate template values clean]
    rintro ⟨_, member, held⟩
    obtain ⟨index, inside, rfl⟩ := List.mem_mapIdx.mp member
    refine Segment.not_mem_fill _ _ _ (fun held => free ?_) (free' index) held
    exact (Text.mem_iff_mem_split '/' character template other).mpr ⟨_, List.getElem_mem inside, held⟩
  exact ⟨absent '?' (by decide) plain.1 fun index => (plainValues index).1,
    absent '#' (by decide) plain.2 fun index => (plainValues index).2⟩

end PathTemplate

namespace Method

/-- Each spelling of the name of a method is read as that method. -/
theorem ofString?_of_sameIgnoringCase (method : Method) (spelled : String)
    (same : Text.sameIgnoringCase method.name spelled = true) : ofString? spelled = some method := by
  have alike (other : Method) : Text.sameIgnoringCase other.name spelled =
      Text.sameIgnoringCase other.name method.name := by
    unfold Text.sameIgnoringCase at same ⊢
    rw [beq_iff_eq.mp same]
  simp only [ofString?, alike]
  cases method <;> decide

/-- The name of a method tells the method. -/
theorem eq_of_name_eq (first second : Method) (same : first.name = second.name) :
    first = second := by
  revert same
  cases first <;> cases second <;> decide

end Method

/-- No candidate for a status looks like a part of another key. -/
theorem clean_of_mem_statusCandidates (number : Nat) (status : String)
    (member : status ∈ statusCandidates number) :
    ' ' ∉ status.toList ∧ Text.endsWith status "_request" = false := by
  have digits (other : Nat) (ending : String) (space : ' ' ∉ ending.toList)
      (letter : '_' ∉ ending.toList) : ' ' ∉ (toString other ++ ending).toList ∧
        Text.endsWith (toString other ++ ending) "_request" = false := by
    have absent (character : Char) (noDigit : character.isDigit = false)
        (free : character ∉ ending.toList) : character ∉ (toString other ++ ending).toList := by
      rw [String.toList_append, List.mem_append]
      rintro (digit | inside)
      · rw [isDigit_of_mem_toString other character digit] at noDigit
        cases noDigit
      · exact free inside
    refine ⟨absent ' ' rfl space, ?_⟩
    rw [Bool.eq_false_iff]
    intro ends
    apply absent '_' rfl letter
    exact (List.isSuffixOf_iff_suffix.mp ends).subset (by decide)
  simp only [statusCandidates, List.mem_cons, List.not_mem_nil, or_false] at member
  rcases member with rfl | rfl | rfl
  · have exact := digits number "" (by decide) (by decide)
    rwa [String.append_empty] at exact
  · exact digits (number / 100) "XX" (by decide) (by decide)
  · decide

namespace ResponseKey

/-- The text of a key is the method, the words of the path and the status. -/
theorem split_text (key : ResponseKey) (clean : ' ' ∉ key.status.toList) :
    Text.split ' ' key.text =
      key.method.name :: (Text.split ' ' key.path ++ [key.status]) := by
  have name : Text.split ' ' key.method.name = [key.method.name] :=
    Text.split_of_not_mem ' ' _ (by cases key.method <;> decide)
  have first : Text.split ' ' key.text =
      Text.split ' ' key.method.name ++ Text.split ' ' (key.path ++ " " ++ key.status) :=
    Text.split_between ' ' _ _ _ (by simp [text])
  have second : Text.split ' ' (key.path ++ " " ++ key.status) =
      Text.split ' ' key.path ++ Text.split ' ' key.status :=
    Text.split_between ' ' _ _ _ (by simp)
  rw [first, second, name, Text.split_of_not_mem ' ' _ clean, List.singleton_append]

/-- Keys with one text are one key, if their statuses have no space. -/
theorem eq_of_text_eq (first second : ResponseKey) (clean : ' ' ∉ first.status.toList)
    (clean' : ' ' ∉ second.status.toList) (same : first.text = second.text) : first = second := by
  have parts := congrArg (Text.split ' ') same
  rw [split_text first clean, split_text second clean', List.cons.injEq] at parts
  obtain ⟨name, rest⟩ := parts
  obtain ⟨between, last⟩ := List.append_inj' rest rfl
  have method := Method.eq_of_name_eq _ _ name
  have path : first.path = second.path := by
    rw [← Text.intercalate_split ' ' first.path, between, Text.intercalate_split]
  have status := (List.cons.inj last).1
  cases first
  cases second
  simp only at method path status
  rw [method, path, status]

/-- No key of a response is one of a request, if its status has not the ending of those. -/
theorem text_ne_requestKey (key : ResponseKey) (operation : String)
    (other : Text.endsWith key.status "_request" = false) : key.text ≠ requestKey operation := by
  intro same
  have characters := congrArg String.toList same
  simp only [text, requestKey, String.toList_append] at characters
  rw [show (" " : String).toList = [' '] from rfl, List.append_assoc _ [' '] key.status.toList,
    List.singleton_append, List.append_eq_append_iff] at characters
  rcases characters with ⟨inner, _, ending⟩ | ⟨inner, _, ending⟩
  · cases inner with
    | nil => cases ending
    | cons space inner =>
        have ends : key.status.toList = inner ++ ("_request" : String).toList :=
          (List.cons.inj ending).2
        rw [Text.endsWith, ends, List.isSuffixOf_iff_suffix.mpr (List.suffix_append _ _)] at other
        cases other
  · have space : ' ' ∈ ("_request" : String).toList := by
      rw [ending]
      exact List.mem_append_right _ (.head _)
    revert space
    decide

end ResponseKey

end ApiContract
