import ApiContract.Unicode.Category
import Mathlib.Data.List.TakeWhile
import Mathlib.Tactic

/-
This file says what is left of a text without the white space at its ends: the one text that has none
there, and of which the whole text is a padded form.
-/

namespace ApiContract.Text

open Unicode (isWhiteSpace trim)

/-- Whether a text has nothing but white space. -/
def IsBlank (text : String) : Prop := ∀ character ∈ text.toList, isWhiteSpace character = true

instance (text : String) : Decidable (IsBlank text) :=
  List.decidableBAll (fun character => isWhiteSpace character = true) text.toList

/-- Whether a text has no white space at its ends. -/
structure IsBare (text : String) : Prop where
  first : ∀ character ∈ text.toList.head?, isWhiteSpace character = false
  last : ∀ character ∈ text.toList.getLast?, isWhiteSpace character = false

instance (text : String) : Decidable (IsBare text) :=
  have first : Decidable (∀ character ∈ text.toList.head?, isWhiteSpace character = false) :=
    Option.decidableForallMem _
  have last : Decidable (∀ character ∈ text.toList.getLast?, isWhiteSpace character = false) :=
    Option.decidableForallMem _
  @decidable_of_iff _ _ ⟨fun ends => ⟨ends.1, ends.2⟩, fun bare => ⟨bare.first, bare.last⟩⟩
    (@instDecidableAnd _ _ first last)

/-- Whether a text is another one, with white space around it or not. -/
def Pads (padded text : String) : Prop :=
  ∃ before after, IsBlank before ∧ IsBlank after ∧ padded = before ++ text ++ after

theorem isBlank_empty : IsBlank "" := nofun

/-- Blank texts make a blank one. -/
theorem IsBlank.append {first second : String} (blank : IsBlank first) (blank' : IsBlank second) :
    IsBlank (first ++ second) := by
  intro character member
  rw [String.toList_append, List.mem_append] at member
  exact member.elim (blank character) (blank' character)

theorem IsBlank.left {first second : String} (blank : IsBlank (first ++ second)) : IsBlank first :=
  fun character member => blank character (by simp [member])

theorem IsBlank.right {first second : String} (blank : IsBlank (first ++ second)) :
    IsBlank second :=
  fun character member => blank character (by simp [member])

/-- A text with a character that is no white space is not blank. -/
theorem not_isBlank_of_mem {text : String} {character : Char} (member : character ∈ text.toList)
    (dark : isWhiteSpace character = false) : ¬IsBlank text := by
  intro blank
  rw [blank character member] at dark
  cases dark

/-- A character that is no white space lies in a padded text exactly if it lies in the text. -/
theorem Pads.mem_iff {padded text : String} (pads : Pads padded text) {character : Char}
    (dark : isWhiteSpace character = false) :
    character ∈ padded.toList ↔ character ∈ text.toList := by
  obtain ⟨before, after, blank, blank', rfl⟩ := pads
  have outside : character ∉ before.toList := fun member => not_isBlank_of_mem member dark blank
  have outside' : character ∉ after.toList := fun member => not_isBlank_of_mem member dark blank'
  simp [outside, outside']

/-- A padded form of a text is blank exactly if the text is. -/
theorem Pads.isBlank_iff {padded text : String} (pads : Pads padded text) :
    IsBlank padded ↔ IsBlank text := by
  obtain ⟨before, after, blank, blank', rfl⟩ := pads
  exact ⟨fun whole => whole.left.right, fun middle => (blank.append middle).append blank'⟩

/-- A blank text with no white space at its ends is empty. -/
theorem IsBare.isBlank_iff {text : String} (bare : IsBare text) : IsBlank text ↔ text = "" := by
  constructor
  · intro blank
    rw [← String.toList_eq_nil_iff, ← List.head?_eq_none_iff, Option.eq_none_iff_forall_not_mem]
    intro character first
    have white := blank character (List.mem_of_mem_head? first)
    rw [bare.first character first] at white
    cases white
  · rintro rfl
    exact isBlank_empty

/-- A text is without white space at its ends if it starts and ends with such texts. -/
theorem IsBare.around {first last : String} (bare : IsBare first) (present : first ≠ "")
    (bare' : IsBare last) (present' : last ≠ "") (middle : String) :
    IsBare (first ++ middle ++ last) := by
  have start : first.toList ≠ [] := mt String.toList_eq_nil_iff.mp present
  have finish : last.toList ≠ [] := mt String.toList_eq_nil_iff.mp present'
  constructor
  · rw [String.toList_append, String.toList_append, List.append_assoc,
      List.head?_append_of_ne_nil _ start]
    exact bare.first
  · rw [String.toList_append, List.getLast?_append_of_ne_nil _ finish]
    exact bare'.last

/-- What precedes the first character that does not pass is dropped. -/
theorem dropWhile_of_starts {test : Char → Bool} (front rest : List Char)
    (passes : ∀ character ∈ front, test character = true)
    (stops : ∀ character ∈ rest.head?, test character = false) :
    (front ++ rest).dropWhile test = rest := by
  rw [List.dropWhile_append_of_pos passes]
  cases rest with
  | nil => rfl
  | cons character others =>
      rw [List.dropWhile_cons_of_neg (by simp [stops character rfl])]

/-- A text pads what it is trimmed to. -/
theorem pads_trim (text : String) : Pads text (trim text) := by
  let start := text.toList.dropWhile isWhiteSpace
  refine ⟨String.ofList (text.toList.takeWhile isWhiteSpace),
    String.ofList (start.reverse.takeWhile isWhiteSpace).reverse, ?_, ?_, ?_⟩
  · intro character member
    rw [String.toList_ofList] at member
    exact List.mem_takeWhile_imp member
  · intro character member
    rw [String.toList_ofList, List.mem_reverse] at member
    exact List.mem_takeWhile_imp member
  · apply String.toList_inj.mp
    simp only [trim, String.toList_append, String.toList_ofList]
    rw [List.append_assoc, ← List.reverse_append, List.takeWhile_append_dropWhile,
      List.reverse_reverse, List.takeWhile_append_dropWhile]

/-- A trimmed text has no white space at its ends. -/
theorem isBare_trim (text : String) : IsBare (trim text) := by
  let start := text.toList.dropWhile isWhiteSpace
  have ends (characters : List Char) : ∀ character ∈ (characters.dropWhile isWhiteSpace).head?,
      isWhiteSpace character = false := by
    intro character first
    have stopped := List.head?_dropWhile_not isWhiteSpace characters
    rw [Option.mem_def.mp first] at stopped
    simpa using stopped
  have kept : start = (start.reverse.dropWhile isWhiteSpace).reverse ++
      (start.reverse.takeWhile isWhiteSpace).reverse := by
    rw [← List.reverse_append, List.takeWhile_append_dropWhile, List.reverse_reverse]
  constructor
  · intro character first
    rw [trim, String.toList_ofList] at first
    refine ends text.toList character ?_
    change character ∈ start.head?
    rw [kept, List.head?_append, Option.mem_def.mp first]
    rfl
  · intro character last
    rw [trim, String.toList_ofList, List.getLast?_reverse] at last
    exact ends start.reverse character last

/-- A text is trimmed to the bare text that it pads. -/
theorem trim_of_pads {text core : String} (bare : IsBare core) (pads : Pads text core) :
    trim text = core := by
  obtain ⟨before, after, blank, blank', rfl⟩ := pads
  apply String.toList_inj.mp
  rw [trim, String.toList_ofList, String.toList_append, String.toList_append, List.append_assoc]
  rcases empty : core.toList with _ | ⟨first, others⟩
  · have white : ∀ character ∈ before.toList ++ ([] ++ after.toList),
        isWhiteSpace character = true := by
      simpa [or_imp, forall_and] using ⟨blank, blank'⟩
    rw [List.dropWhile_eq_nil_iff.mpr white]
    rfl
  · rw [← empty, dropWhile_of_starts before.toList (core.toList ++ after.toList) blank,
      List.reverse_append, dropWhile_of_starts after.toList.reverse core.toList.reverse,
      List.reverse_reverse]
    · simpa [IsBlank] using blank'
    · simpa using bare.last
    · rw [empty]
      simpa [empty] using bare.first

/-- Trimming leaves nothing of the blank texts only. -/
theorem trim_eq_empty_iff (text : String) : trim text = "" ↔ IsBlank text := by
  rw [(pads_trim text).isBlank_iff, (isBare_trim text).isBlank_iff]

/-- A trimmed text is empty if the text is blank. -/
theorem isEmpty_trim_iff (text : String) : (trim text).isEmpty = true ↔ IsBlank text := by
  rw [String.isEmpty_iff, trim_eq_empty_iff]

/-- What pads a text pads what the text pads. -/
theorem Pads.trans {padded text core : String} (outer : Pads padded text) (inner : Pads text core) :
    Pads padded core := by
  obtain ⟨before, after, blank, blank', rfl⟩ := outer
  obtain ⟨front, back, white, white', rfl⟩ := inner
  refine ⟨before ++ front, back ++ after, blank.append white, white'.append blank', ?_⟩
  simp only [String.append_assoc]

end ApiContract.Text
