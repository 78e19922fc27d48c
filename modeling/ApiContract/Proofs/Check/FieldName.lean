import Mathlib
import ApiContract.Check
import ApiContract.Proofs.Json.Location

/-
This file says what the name of a field is, apart from the pointer that it is made of, and proves that
the name of a field tells its place from all others, as long as no member has a dot or a bracket in its
name.
-/

namespace ApiContract

namespace Json

/-- What the name of a field has for a step, behind other steps. -/
def Step.suffix : Step → String
  | member name => "." ++ name
  | item position => "[" ++ toString position.toNat ++ "]"

namespace Location

/-- The name of the field at a place. No dot stands before the first step. -/
def fieldName : Location → String
  | [] => "root"
  | .member name :: rest => name ++ String.join (rest.map Step.suffix)
  | .item position :: rest => String.join ((.item position :: rest).map Step.suffix)

/-- Whether all members on the way to a place have names. -/
def IsNamed (location : Location) : Prop := .member "" ∉ location

/-- Whether no member on the way to a place has a dot or an opening bracket in its name. -/
def IsUnmarked (location : Location) : Prop :=
  ∀ name, .member name ∈ location → '.' ∉ name.toList ∧ '[' ∉ name.toList

end Location

end Json

namespace Violation

open Json

/-- A step that leads somewhere is written as what it is in the value, a member or a position. -/
theorem fieldSteps_cons {node inner : Json} {step : Step} (down : node.below? step = some inner)
    (rest : List String) (field : String) :
    fieldSteps (step.text :: rest) (some node) field =
      fieldSteps rest (some inner)
        (match step with
          | .member name => (if field.isEmpty then field else field ++ ".") ++ name
          | .item position => field ++ "[" ++ toString position.toNat ++ "]") := by
  have token := step.unescape_text
  rw [fieldSteps.eq_def]
  cases step with
  | member name =>
      cases node with
      | object members =>
          have found : members.lookup name = some inner := down
          rw [Step.token] at token
          simp only [token, Option.bind_some, member?, found]
      | _ => cases down
  | item position =>
      cases node with
      | array items =>
          have found : items[position.toNat]? = some inner := down
          have fits : position.toNat < Nat.pow 2 64 := position.toNat_lt
          have read := Text.unsigned?_toString position.toNat fits
          rw [Step.token] at token
          simp only [token, read, found]
      | _ => cases down

/-- Behind other steps, each step adds what stands for it. -/
theorem fieldSteps_text {value node : Json} (location : Location)
    (found : value.nodeAt? location = some node) (field : String) (present : field ≠ "") :
    fieldSteps (location.map Step.text) (some value) field =
      field ++ String.join (location.map Step.suffix) := by
  induction location generalizing value field with
  | nil =>
      rw [List.map_nil, List.map_nil, fieldSteps.eq_def]
      exact String.append_empty.symm
  | cons step rest ih =>
      rw [nodeAt?, List.foldlM_cons] at found
      obtain ⟨inner, down, onward⟩ := Option.bind_eq_some_iff.mp found
      have written : field.isEmpty = false := by simpa using present
      rw [List.map_cons, fieldSteps_cons down, List.map_cons, String.join_cons]
      cases step with
      | member name =>
          rw [ih onward _ (by simp [written])]
          simp [written, Step.suffix, String.append_assoc]
      | item position =>
          rw [ih onward _ (by simp)]
          simp [Step.suffix, String.append_assoc]

/-- The name of the field that a pointer names is that of the place it was written for. -/
theorem fieldName_text {value node : Json} (location : Location)
    (found : value.nodeAt? location = some node) (named : location.IsNamed) :
    fieldName location.text value = location.fieldName := by
  cases location with
  | nil => rfl
  | cons step rest =>
      have start : Text.stripStart "/" (Location.text (step :: rest)) =
          some ((String.singleton '/').intercalate ((step :: rest).map Step.text)) := by
        rw [Location.text_of_ne_nil _ (by simp)]
        exact Text.stripStart_append "/" _
      rw [nodeAt?, List.foldlM_cons] at found
      obtain ⟨inner, down, onward⟩ := Option.bind_eq_some_iff.mp found
      rw [fieldName, start]
      dsimp only
      rw [Location.split_steps _ (by simp), List.map_cons, fieldSteps_cons down]
      cases step with
      | member name =>
          have present : name ≠ "" := by
            rintro rfl
            exact named (by simp)
          simp [fieldSteps_text rest onward name present, Location.fieldName]
      | item position =>
          rw [fieldSteps_text rest onward _ (by simp)]
          simp [Location.fieldName, Step.suffix]

end Violation

namespace Json

/-- The characters that part the steps in the name of a field. -/
def isFieldMark (character : Char) : Bool := character == '.' || character == '['

/-- The names of an unmarked location have no mark in them. -/
theorem Location.IsUnmarked.name {location : Location} (unmarked : location.IsUnmarked)
    {name : String} (member : .member name ∈ location) :
    ∀ character ∈ name.toList, isFieldMark character = false := by
  intro character inside
  have free := unmarked name member
  have noDot : character ≠ '.' := fun dot => free.1 (dot ▸ inside)
  have noBracket : character ≠ '[' := fun bracket => free.2 (bracket ▸ inside)
  simp [isFieldMark, noDot, noBracket]

/-- A suffix starts with a mark, and has no other. -/
theorem Step.suffix_eq_cons (step : Step) (unmarked : Location.IsUnmarked [step]) :
    ∃ mark body, step.suffix.toList = mark :: body ∧ isFieldMark mark = true ∧
      ∀ character ∈ body, isFieldMark character = false := by
  cases step with
  | member name =>
      exact ⟨'.', name.toList, by simp [suffix], rfl, unmarked.name (by simp)⟩
  | item position =>
      refine ⟨'[', (toString position.toNat).toList ++ [']'], by simp [suffix], rfl, ?_⟩
      intro character member
      rcases List.mem_append.mp member with digit | last
      · have isDigit := isDigit_of_mem_toString position.toNat character digit
        have noDot : character ≠ '.' := by
          rintro rfl
          cases isDigit
        have noBracket : character ≠ '[' := by
          rintro rfl
          cases isDigit
        simp [isFieldMark, noDot, noBracket]
      · rw [List.mem_singleton.mp last]
        rfl

/-- What a step adds to the name of a field tells the step. -/
theorem Step.suffix_injective {first second : Step} (same : first.suffix = second.suffix) :
    first = second := by
  have characters := congrArg String.toList same
  cases first with
  | member name =>
      cases second with
      | member name' => simpa [suffix] using same
      | item position => simp [suffix] at characters
  | item position =>
      cases second with
      | member name => simp [suffix] at characters
      | item position' =>
          have digits : toString position.toNat = toString position'.toNat := by
            simpa [suffix] using same
          rw [UInt64.toNat_inj.mp (Nat.repr_injective digits)]

namespace Location

/-- What the name of a field has for steps behind other steps. -/
def suffixes (location : Location) : List Char :=
  location.flatMap fun step => step.suffix.toList

/-- What the steps of a location add is joined character by character. -/
theorem suffixes_eq (location : Location) :
    (String.join (location.map Step.suffix)).toList = location.suffixes := by
  simp [suffixes, List.flatMap_map]

/-- The first step of an unmarked location has no mark. -/
theorem IsUnmarked.step {step : Step} {rest : Location} (unmarked : IsUnmarked (step :: rest)) :
    IsUnmarked [step] := by
  intro name member
  apply unmarked name
  simp only [List.mem_singleton] at member
  simp [member]

/-- The steps behind the first one have no marks either. -/
theorem IsUnmarked.rest {step : Step} {rest : Location} (unmarked : IsUnmarked (step :: rest)) :
    rest.IsUnmarked :=
  fun name member => unmarked name (.tail _ member)

/-- The first of the suffixes starts with a mark. -/
theorem marked_suffixes {location : Location} (unmarked : location.IsUnmarked) :
    ∀ character ∈ location.suffixes.head?, isFieldMark character = true := by
  cases location with
  | nil => nofun
  | cons step rest =>
      obtain ⟨mark, body, written, marked, _⟩ := step.suffix_eq_cons unmarked.step
      simp [suffixes, written, marked]

/-- Steps with the same suffixes are the same: a mark stands where a suffix starts, and nowhere else. -/
theorem suffixes_injective {first second : Location} (unmarked : first.IsUnmarked)
    (unmarked' : second.IsUnmarked) (same : first.suffixes = second.suffixes) : first = second := by
  induction first generalizing second with
  | nil =>
      cases second with
      | nil => rfl
      | cons step rest =>
          obtain ⟨mark, body, written, _⟩ := step.suffix_eq_cons unmarked'.step
          simp [suffixes, written] at same
  | cons step rest ih =>
      obtain ⟨mark, body, written, _, clean⟩ := step.suffix_eq_cons unmarked.step
      cases second with
      | nil => simp [suffixes, written] at same
      | cons step' rest' =>
          obtain ⟨mark', body', written', _, clean'⟩ := step'.suffix_eq_cons unmarked'.step
          have parts : mark :: (body ++ suffixes rest) = mark' :: (body' ++ suffixes rest') := by
            simpa [suffixes, written, written'] using same
          obtain ⟨marks, tails⟩ := List.cons.inj parts
          obtain ⟨bodies, onward⟩ := Text.append_inj_of_marked isFieldMark clean clean'
            (marked_suffixes unmarked.rest) (marked_suffixes unmarked'.rest) tails
          have steps : step = step' := by
            apply Step.suffix_injective
            apply String.toList_inj.mp
            rw [written, written', marks, bodies]
          rw [steps, ih unmarked.rest unmarked'.rest onward]

/-- What stands in the name of a field before the first suffix. -/
def opening : Location → String
  | [] => "root"
  | .member name :: _ => name
  | .item _ :: _ => ""

/-- The steps that have suffixes in the name of a field. -/
def onward : Location → Location
  | .member _ :: rest => rest
  | location => location

/-- The name of a field is its opening with what the onward steps add. -/
theorem fieldName_toList (location : Location) :
    location.fieldName.toList = location.opening.toList ++ location.onward.suffixes := by
  cases location with
  | nil => rfl
  | cons step rest =>
      cases step with
      | member name => rw [fieldName, String.toList_append, suffixes_eq, opening, onward]
      | item position =>
          rw [fieldName, suffixes_eq]
          rfl

/-- The opening of an unmarked location has no mark in it. -/
theorem opening_unmarked {location : Location} (unmarked : location.IsUnmarked) :
    ∀ character ∈ location.opening.toList, isFieldMark character = false := by
  cases location with
  | nil => simp [opening, isFieldMark]
  | cons step rest =>
      cases step with
      | member name => exact unmarked.name (.head _)
      | item position => nofun

/-- The onward steps of an unmarked location have no marks. -/
theorem onward_unmarked {location : Location} (unmarked : location.IsUnmarked) :
    location.onward.IsUnmarked := by
  cases location with
  | nil => exact unmarked
  | cons step rest =>
      cases step with
      | member name => exact unmarked.rest
      | item position => exact unmarked

/-- Two places whose fields have the same name are the same. The root is told from a member with its
name by the condition on both. -/
theorem fieldName_injective {first second : Location} (named : first.IsNamed)
    (named' : second.IsNamed) (unmarked : first.IsUnmarked) (unmarked' : second.IsUnmarked)
    (apart : first ≠ [.member "root"]) (apart' : second ≠ [.member "root"])
    (same : first.fieldName = second.fieldName) : first = second := by
  have characters := congrArg String.toList same
  rw [fieldName_toList, fieldName_toList] at characters
  obtain ⟨openings, suffixed⟩ := Text.append_inj_of_marked isFieldMark (opening_unmarked unmarked)
    (opening_unmarked unmarked') (marked_suffixes (onward_unmarked unmarked))
    (marked_suffixes (onward_unmarked unmarked')) characters
  have steps := suffixes_injective (onward_unmarked unmarked) (onward_unmarked unmarked') suffixed
  have start : first.opening = second.opening := String.toList_inj.mp openings
  rcases first with _ | ⟨_ | _, rest⟩ <;> rcases second with _ | ⟨_ | _, rest'⟩ <;>
    simp_all [opening, onward, IsNamed]

end Location

end Json

namespace Violation

open Json

/-- The name of a field is written step by step from its place, and tells it from all places without
dots and brackets, the root's own name apart. -/
theorem fieldName_identifies (value : Json) :
    (∀ (location : Location) (node : Json), value.nodeAt? location = some node → location.IsNamed →
      fieldName location.text value = location.fieldName) ∧
      ∀ first second : Location, (value.nodeAt? first).isSome = true →
        (value.nodeAt? second).isSome = true → first.IsNamed → second.IsNamed →
          first.IsUnmarked → second.IsUnmarked → first ≠ [.member "root"] →
            second ≠ [.member "root"] → first ≠ second →
              fieldName first.text value ≠ fieldName second.text value := by
  refine ⟨fun location node => fieldName_text location, ?_⟩
  intro first second exists_ exists' named named' unmarked unmarked' apart apart' different same
  obtain ⟨node, found⟩ := Option.isSome_iff_exists.mp exists_
  obtain ⟨node', found'⟩ := Option.isSome_iff_exists.mp exists'
  rw [fieldName_text first found named, fieldName_text second found' named'] at same
  exact different (Location.fieldName_injective named named' unmarked unmarked' apart apart' same)

end Violation

namespace SubmissionBody

open Json

/-- A body with a position, and with a member that has digits for a name. -/
def body : Json :=
  .object [("meta", .object [("0", .object [("a/b", .bool true)])]),
    ("submissions", .array [.bool false, .object [("0", .bool true)]])]

def labelled : Location := [.member "meta", .member "0", .member "a/b"]

def submitted : Location := [.member "submissions", .item 1, .member "0"]

/-- Members with digits for their names are named after dots, and positions in brackets. -/
theorem fieldName_of_body :
    body.nodeAt? labelled = some (.bool true) ∧ body.nodeAt? submitted = some (.bool true) ∧
      labelled.IsNamed ∧ submitted.IsNamed ∧ labelled.IsUnmarked ∧ submitted.IsUnmarked ∧
        Violation.fieldName labelled.text body = "meta.0.a/b" ∧
          Violation.fieldName submitted.text body = "submissions[1].0" ∧
            Violation.fieldName labelled.text body ≠ Violation.fieldName submitted.text body := by
  have found : body.nodeAt? labelled = some (.bool true) := by rfl
  have found' : body.nodeAt? submitted = some (.bool true) := by rfl
  have named : labelled.IsNamed := by simp [Location.IsNamed, labelled]
  have named' : submitted.IsNamed := by simp [Location.IsNamed, submitted]
  have unmarked : labelled.IsUnmarked := by
    simp [Location.IsUnmarked, labelled]
  have unmarked' : submitted.IsUnmarked := by
    simp [Location.IsUnmarked, submitted]
  obtain ⟨names, apart⟩ := Violation.fieldName_identifies body
  refine ⟨found, found', named, named', unmarked, unmarked', ?_, ?_, ?_⟩
  · rw [names labelled _ found named]
    decide
  · rw [names submitted _ found' named']
    decide
  · exact apart labelled submitted (by rw [found]; rfl) (by rw [found']; rfl) named named' unmarked
      unmarked' (by decide) (by decide) (by decide)

end SubmissionBody

end ApiContract
