import ApiContract.Route
import ApiContract.Proofs.Text.Split

/-
This file proves that a path template matches its own text, and every path that has values in the
place of its parameters.
-/

namespace ApiContract

/-- The parts of a text between marks that are not empty. -/
def Text.present (mark : Char) (text : String) : List String :=
  (split mark text).filter fun part => !part.isEmpty

namespace Text

/-- A mark between two texts leaves the parts of both. -/
theorem present_between (mark : Char) (text first second : String)
    (between : text.toList = first.toList ++ mark :: second.toList) :
    present mark text = present mark first ++ present mark second := by
  rw [present, split_between mark text first second between, List.filter_append, present, present]

theorem present_empty (mark : Char) : present mark "" = [] := rfl

/-- Marks at the start of a text make no parts. -/
theorem present_dropWhile (mark : Char) (characters : List Char) :
    present mark (String.ofList (characters.dropWhile (· == mark))) =
      present mark (String.ofList characters) := by
  induction characters with
  | nil => rfl
  | cons character rest ih =>
      rw [List.dropWhile_cons]
      split
      · next same =>
          rw [ih, present_between mark (String.ofList (character :: rest)) "" (String.ofList rest)
            (by simpa using same), present_empty, List.nil_append]
      · rfl

/-- Marks at the end of a text make no parts. -/
theorem present_dropWhile_end (mark : Char) (characters : List Char) :
    present mark (String.ofList (characters.reverse.dropWhile (· == mark)).reverse) =
      present mark (String.ofList characters) := by
  induction characters using List.reverseRecOn with
  | nil => rfl
  | append_singleton rest character ih =>
      rw [List.reverse_append, List.reverse_singleton, List.singleton_append, List.dropWhile_cons]
      split
      · next same =>
          rw [ih, present_between mark (String.ofList (rest ++ [character])) (String.ofList rest) ""
            (by simpa using same), present_empty, List.append_nil]
      · rw [List.reverse_cons, List.reverse_reverse]

/-- Marks at the ends of a text only make empty parts. -/
theorem present_trimMark (mark : Char) (text : String) :
    present mark (trimMark mark text) = present mark text := by
  rw [trimMark, present_dropWhile_end, present_dropWhile, String.ofList_toList]

end Text

/-- The segments of a path are what is present between its slashes. -/
theorem pathSegments_eq_present (path : String) : pathSegments path = Text.present '/' path :=
  Text.present_trimMark '/' path

namespace Segment

/-- A segment allows its own text. -/
theorem allows_self (text : String) (present : text.isEmpty = false) :
    (ofString text).allows text = true := by
  unfold ofString
  split
  · rw [allows, present, Bool.not_false]
  · rw [allows, beq_self_eq_true]

/-- What stands in a path for a part of its template. -/
def fill (part value : String) : String := if ofString part = .parameter then value else part

/-- A part that is filled with a value is empty if it was. -/
theorem isEmpty_fill (part value : String) (present : value.isEmpty = false) :
    (fill part value).isEmpty = part.isEmpty := by
  unfold fill
  split
  · next parameter =>
      rw [present]
      cases empty : part.isEmpty with
      | false => rfl
      | true =>
          rw [String.isEmpty_iff.mp empty] at parameter
          cases parameter
  · rfl

/-- A segment allows its part filled with a value. -/
theorem allows_fill (part value : String) (present : value.isEmpty = false)
    (named : part.isEmpty = false) : (ofString part).allows (fill part value) = true := by
  unfold fill
  split
  · next parameter => rw [parameter, allows, present, Bool.not_false]
  · exact allows_self part named

/-- A filled part has no characters but those of the part and the value. -/
theorem not_mem_fill (part value : String) (character : Char) (clean : character ∉ part.toList)
    (clean' : character ∉ value.toList) : character ∉ (fill part value).toList := by
  unfold fill
  split
  · exact clean'
  · exact clean

end Segment

namespace PathTemplate

/-- The path of a template with values in the place of its parameters; the values are counted with
all parts between slashes. -/
def instantiate (template : String) (values : Nat → String) : String :=
  (String.singleton '/').intercalate
    ((Text.split '/' template).mapIdx fun index part => Segment.fill part (values index))

/-- Parts match if they are as many, and each one is allowed in its place. -/
theorem segmentsMatch_iff (segments : List Segment) (parts : List String) :
    segmentsMatch segments parts = true ↔
      List.Forall₂ (fun segment part => segment.allows part = true) segments parts := by
  induction segments generalizing parts with
  | nil => cases parts <;> simp [segmentsMatch]
  | cons segment rest ih => cases parts <;> simp [segmentsMatch, ih]

/-- The segments of a template match its parts filled with values. -/
theorem segmentsMatch_fill (parts : List String) (values : Nat → String)
    (present : ∀ index, (values index).isEmpty = false) :
    segmentsMatch ((parts.filter fun part => !part.isEmpty).map Segment.ofString)
      ((parts.mapIdx fun index part => Segment.fill part (values index)).filter
        fun part => !part.isEmpty) = true := by
  induction parts generalizing values with
  | nil => rfl
  | cons part rest ih =>
      have onward := ih (fun index => values (index + 1)) fun index => present (index + 1)
      have same := Segment.isEmpty_fill part (values 0) (present 0)
      rw [List.mapIdx_cons]
      cases empty : part.isEmpty with
      | true =>
          rw [empty] at same
          rw [List.filter_cons_of_neg (by simp [empty]), List.filter_cons_of_neg (by simp [same])]
          exact onward
      | false =>
          rw [empty] at same
          rw [List.filter_cons_of_pos (by simp [empty]), List.filter_cons_of_pos (by simp [same]),
            List.map_cons, segmentsMatch, Segment.allows_fill part _ (present 0) empty,
            Bool.true_and]
          exact onward

/-- An instance is filled part by part. -/
theorem split_instantiate (template : String) (values : Nat → String)
    (clean : ∀ index, '/' ∉ (values index).toList) :
    Text.split '/' (instantiate template values) =
      (Text.split '/' template).mapIdx fun index part => Segment.fill part (values index) := by
  apply Text.split_intercalate
  · intro empty
    exact Text.split_ne_nil '/' template (List.mapIdx_eq_nil_iff.mp empty)
  · intro part member
    obtain ⟨index, inside, rfl⟩ := List.mem_mapIdx.mp member
    exact Segment.not_mem_fill _ _ _
      (Text.not_mem_of_mem_split '/' template _ (List.getElem_mem inside)) (clean index)

/-- A template matches each path with values in the place of its parameters. -/
theorem matchesEndpoint_instantiate (template : String) (values : Nat → String)
    (present : ∀ index, (values index).isEmpty = false)
    (clean : ∀ index, '/' ∉ (values index).toList) :
    (ofString template).matchesEndpoint (instantiate template values) = true := by
  rw [matchesEndpoint, ofString, pathSegments_eq_present, pathSegments_eq_present, Text.present,
    Text.present, split_instantiate template values clean]
  exact segmentsMatch_fill (Text.split '/' template) values present

/-- A template matches its own text. -/
theorem matchesEndpoint_self (template : String) :
    (ofString template).matchesEndpoint template = true := by
  rw [matchesEndpoint, ofString, pathSegments_eq_present, segmentsMatch_iff,
    List.forall₂_map_left_iff, List.forall₂_same]
  intro part member
  have named : part.isEmpty = false := by simpa using (List.mem_filter.mp member).2
  exact Segment.allows_self part named

end PathTemplate

end ApiContract
