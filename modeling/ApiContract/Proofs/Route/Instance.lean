import ApiContract.Proofs.Route.Template

/-
This file proves that a path template matches a path if and only if the path is an instance of it: each
placeholder gives way to some part, and every other part stays as it is. Slashes at the ends of a path
and beside other slashes do not matter.
-/

namespace ApiContract

/-- Whether a path has one slash more than another, at an end or beside another slash. -/
inductive AddsSlash : String → String → Prop where
  | first (path : String) : AddsSlash path ("/" ++ path)
  | last (path : String) : AddsSlash path (path ++ "/")
  | double (before after : String) : AddsSlash (before ++ "/" ++ after) (before ++ "//" ++ after)

/-- Whether two paths differ in such slashes alone. -/
def SameUpToSlashes : String → String → Prop := Relation.EqvGen AddsSlash

/-- An added slash adds no segment. -/
theorem pathSegments_of_addsSlash {path path' : String} (adds : AddsSlash path path') :
    pathSegments path' = pathSegments path := by
  simp only [pathSegments_eq_present]
  cases adds with
  | first =>
      rw [Text.present_between '/' ("/" ++ path) "" path (by simp), Text.present_empty,
        List.nil_append]
  | last =>
      rw [Text.present_between '/' (path ++ "/") path "" (by simp), Text.present_empty,
        List.append_nil]
  | double before after =>
      have outer := Text.present_between '/' (before ++ "//" ++ after) before ("/" ++ after) (by simp)
      have inner := Text.present_between '/' ("/" ++ after) "" after (by simp)
      rw [outer, inner, Text.present_empty, List.nil_append]
      exact (Text.present_between '/' (before ++ "/" ++ after) before after (by simp)).symm

/-- Paths that differ in slashes alone have the same parts. -/
theorem SameUpToSlashes.pathSegments_eq {path path' : String} (same : SameUpToSlashes path path') :
    pathSegments path = pathSegments path' := by
  induction same with
  | rel _ _ adds => exact (pathSegments_of_addsSlash adds).symm
  | refl _ => rfl
  | symm _ _ _ ih => exact ih.symm
  | trans _ _ _ _ _ first second => exact first.trans second

namespace Segment

/-- Whether a part of a template is a placeholder: it has two bytes at least and stands in braces. -/
def IsPlaceholder (part : String) : Prop :=
  2 ≤ part.utf8ByteSize ∧ Text.startsWith part "\x7b" = true ∧ Text.endsWith part "\x7d" = true

instance : DecidablePred IsPlaceholder := fun _ => inferInstanceAs (Decidable (_ ∧ _))

/-- Whether a part of a path is any part that is not empty for a placeholder, and else the very part
of the template. -/
def Instantiates (part actual : String) : Prop :=
  if IsPlaceholder part then actual ≠ "" else actual = part

instance : DecidableRel Instantiates := fun part actual =>
  inferInstanceAs (Decidable (if IsPlaceholder part then actual ≠ "" else actual = part))

/-- A text that starts with one brace and ends with the other has a name between the two. -/
theorem exists_name_of_braces {part : String} (starts : Text.startsWith part "\x7b" = true)
    (ends : Text.endsWith part "\x7d" = true) : ∃ name, part = "\x7b" ++ name ++ "\x7d" := by
  obtain ⟨rest, whole⟩ := List.isPrefixOf_iff_prefix.mp starts
  obtain ⟨inner, whole'⟩ := List.isSuffixOf_iff_suffix.mp ends
  have characters := whole.trans whole'.symm
  cases inner with
  | nil => simp at characters
  | cons brace name =>
      have same : rest = name ++ ['\x7d'] := by simpa using (List.cons.inj characters).2
      refine ⟨String.ofList name, String.toList_inj.mp ?_⟩
      simp [← whole, same]

/-- The placeholders are the parts of a template that stand for any value. -/
theorem ofString_eq (part : String) :
    ofString part = if IsPlaceholder part then .parameter else .literal part := by
  have long (starts : Text.startsWith part "\x7b" = true) (ends : Text.endsWith part "\x7d" = true) :
      2 ≤ part.length ∧ 2 ≤ part.utf8ByteSize := by
    obtain ⟨name, rfl⟩ := exists_name_of_braces starts ends
    have bytes : ("\x7b" : String).utf8ByteSize = 1 ∧ ("\x7d" : String).utf8ByteSize = 1 := by decide
    have characters : ("\x7b" : String).length = 1 ∧ ("\x7d" : String).length = 1 := by decide
    simp only [String.length_append, String.utf8ByteSize_append]
    omega
  have alike : (2 ≤ part.length ∧ Text.startsWith part "\x7b" = true ∧
      Text.endsWith part "\x7d" = true) ↔ IsPlaceholder part :=
    ⟨fun ⟨_, starts, ends⟩ => ⟨(long starts ends).2, starts, ends⟩,
      fun ⟨_, starts, ends⟩ => ⟨(long starts ends).1, starts, ends⟩⟩
  exact if_congr alike rfl rfl

/-- A segment of a template allows its instances. -/
theorem allows_ofString_iff (part actual : String) :
    (ofString part).allows actual = true ↔ Instantiates part actual := by
  rw [ofString_eq, Instantiates]
  by_cases placeholder : IsPlaceholder part
  · simp [placeholder, allows]
  · rw [if_neg placeholder, if_neg placeholder, allows, beq_iff_eq, eq_comm]

/-- What a part of a template gives way to is a part of the same kind, or a part in the place of a
placeholder that is none itself. -/
theorem ofString_of_instantiates {part actual : String} (stands : Instantiates part actual) :
    ofString part = ofString actual ∨ ofString part = .parameter ∧ ofString actual ≠ .parameter := by
  rw [Instantiates] at stands
  simp only [ofString_eq]
  by_cases placeholder : IsPlaceholder part
  · by_cases other : IsPlaceholder actual <;> simp [placeholder, other]
  · simp only [placeholder, if_false] at stands
    exact .inl (by rw [stands])

end Segment

namespace PathTemplate

open Segment

/-- A template matches the paths whose parts are what its own parts give way to. -/
theorem matchesEndpoint_iff (template endpoint : String) :
    (ofString template).matchesEndpoint endpoint = true ↔
      List.Forall₂ Instantiates (Text.present '/' template) (Text.present '/' endpoint) := by
  rw [matchesEndpoint, ofString, segmentsMatch_iff, pathSegments_eq_present,
    pathSegments_eq_present, List.forall₂_map_left_iff]
  simp only [allows_ofString_iff]

/-- Without placeholders nothing gives way. -/
theorem forall₂_instantiates_iff {parts : List String} (literal : ∀ part ∈ parts, ¬IsPlaceholder part)
    (actuals : List String) : List.Forall₂ Instantiates parts actuals ↔ actuals = parts := by
  induction parts generalizing actuals with
  | nil => simp
  | cons part rest ih =>
      obtain ⟨own, others⟩ := List.forall_mem_cons.mp literal
      cases actuals with
      | nil => simp
      | cons actual actuals => simp [Instantiates, own, ih others]

/-- A template has a parameter for each placeholder between its slashes. -/
theorem parameterCount_eq (template : String) :
    (ofString template).parameterCount =
      (Text.present '/' template).countP fun part => IsPlaceholder part := by
  rw [parameterCount, ofString, pathSegments_eq_present, List.count, List.countP_map]
  apply List.countP_congr
  intro part _
  by_cases placeholder : IsPlaceholder part <;> simp [ofString_eq, placeholder]

/-- A template that matches a path has the same parts as the template of that path, or more
parameters. -/
theorem segments_eq_or_more_parameters {template endpoint : String}
    (matched : (ofString template).matchesEndpoint endpoint = true) :
    (ofString template).segments = (ofString endpoint).segments ∨
      (ofString endpoint).parameterCount < (ofString template).parameterCount := by
  rw [matchesEndpoint_iff] at matched
  simp only [parameterCount, ofString, pathSegments_eq_present]
  generalize Text.present '/' template = parts, Text.present '/' endpoint = actuals at matched ⊢
  induction matched with
  | nil => exact .inl rfl
  | @cons part actual _ _ stands _ ih =>
      have first := ofString_of_instantiates stands
      simp only [List.map_cons, List.count_cons, List.cons.injEq]
      rcases first with same | ⟨parameter, other⟩
      · rcases ih with rest | fewer
        · exact .inl ⟨same, rest⟩
        · exact .inr (by rw [same]; omega)
      -- A part that gave way counts on the side of the template alone.
      · right
        rcases ih with rest | fewer
        · simp [parameter, other, rest]
        · simp [parameter, other]
          omega

/-- A template matches exactly its instances, with some part for each placeholder and its own parts
elsewhere, whatever slashes are added. -/
theorem matchesEndpoint_iff_instance (template endpoint : String) :
    ((ofString template).matchesEndpoint endpoint = true ↔
        List.Forall₂ Instantiates (Text.present '/' template) (Text.present '/' endpoint)) ∧
      (ofString template).matchesEndpoint template = true ∧
      ((∀ part ∈ Text.present '/' template, ¬IsPlaceholder part) →
        ((ofString template).matchesEndpoint endpoint = true ↔
          Text.present '/' endpoint = Text.present '/' template)) ∧
      ((ofString template).matchesEndpoint endpoint = true →
        (Text.present '/' endpoint).length = (Text.present '/' template).length) ∧
      ((ofString template).parameterCount =
        (Text.present '/' template).countP fun part => IsPlaceholder part) ∧
      ∀ template' endpoint', SameUpToSlashes template template' →
        SameUpToSlashes endpoint endpoint' →
          (ofString template').matchesEndpoint endpoint' = (ofString template).matchesEndpoint endpoint ∧
            (ofString template').parameterCount = (ofString template).parameterCount := by
  have instances := matchesEndpoint_iff template endpoint
  refine ⟨instances, matchesEndpoint_self template, ?_, ?_, parameterCount_eq template, ?_⟩
  · intro literal
    rw [instances, forall₂_instantiates_iff literal]
  · intro matched
    exact (instances.mp matched).length_eq.symm
  · intro template' endpoint' slashes slashes'
    have segments : (ofString template').segments = (ofString template).segments := by
      simp only [ofString, slashes.pathSegments_eq]
    simp only [matchesEndpoint, parameterCount, segments, slashes'.pathSegments_eq, and_self]

end PathTemplate

namespace ProblemPath

open PathTemplate

theorem sameUpToSlashes_template :
    SameUpToSlashes "/problems/\x7bid\x7d/\x7b" "problems//\x7bid\x7d/\x7b/" := by
  have bare : AddsSlash "problems/\x7bid\x7d/\x7b" "/problems/\x7bid\x7d/\x7b" := .first _
  have doubled : AddsSlash "problems/\x7bid\x7d/\x7b" "problems//\x7bid\x7d/\x7b" :=
    .double "problems" "\x7bid\x7d/\x7b"
  have ended : AddsSlash "problems//\x7bid\x7d/\x7b" "problems//\x7bid\x7d/\x7b/" := .last _
  exact .trans _ _ _ (.symm _ _ (.rel _ _ bare)) (.trans _ _ _ (.rel _ _ doubled) (.rel _ _ ended))

/-- A brace alone is no placeholder, and slashes do not keep a template from its instances. -/
theorem matchesEndpoint_of_slashed_problem :
    SameUpToSlashes "/problems/\x7bid\x7d/\x7b" "problems//\x7bid\x7d/\x7b/" ∧
      SameUpToSlashes "/problems/42/\x7b" "/problems/42/\x7b/" ∧
      (ofString "problems//\x7bid\x7d/\x7b/").matchesEndpoint "/problems/42/\x7b/" = true ∧
      (ofString "problems//\x7bid\x7d/\x7b/").parameterCount = 1 ∧
      (∀ part ∈ Text.present '/' "/problems/\x7b", ¬Segment.IsPlaceholder part) ∧
      (ofString "/problems/\x7b").matchesEndpoint "/problems/42" = false := by
  have template := sameUpToSlashes_template
  have path : SameUpToSlashes "/problems/42/\x7b" "/problems/42/\x7b/" := .rel _ _ (.last _)
  obtain ⟨instances, -, -, -, count, slashes⟩ :=
    matchesEndpoint_iff_instance "/problems/\x7bid\x7d/\x7b" "/problems/42/\x7b"
  have literal : ∀ part ∈ Text.present '/' "/problems/\x7b", ¬Segment.IsPlaceholder part := by decide
  have verbatim := (matchesEndpoint_iff_instance "/problems/\x7b" "/problems/42").2.2.1 literal
  obtain ⟨matched, counted⟩ := slashes _ _ template path
  refine ⟨template, path, ?_, ?_, literal, ?_⟩
  · rw [matched, instances]
    decide
  · rw [counted, count]
    decide
  · rw [← Bool.not_eq_true, verbatim]
    decide

end ProblemPath

end ApiContract
