import ApiContract.Text.Basic
import Mathlib.Data.List.TakeWhile
import Mathlib.Tactic

/-
This file proves how texts fall into parts between marks. Parts put together and taken apart again
are the same, and marks at the ends of a text only add empty parts. It also says what is left of a
text without its start or without the marks at its ends.
-/

namespace ApiContract.Text

/-- Splitting at a mark is what the library does. -/
theorem splitAt_eq_splitOn (mark : Char) (text : List Char) :
    splitAt mark text = text.splitOn mark := by
  induction text with
  | nil => rfl
  | cons character rest ih =>
      rw [splitAt, List.splitOn_cons_eq_if_modifyHead, ih]
      by_cases same : character = mark
      · simp [same]
      · rcases parts : rest.splitOn mark with _ | ⟨part, others⟩
        · exact absurd parts (List.splitOn_ne_nil mark rest)
        · simp [same]

/-- The parts of a text are those of its characters. -/
theorem split_eq_splitOn (mark : Char) (text : String) :
    split mark text = (text.toList.splitOn mark).map String.ofList := by
  rw [split, splitAt_eq_splitOn]

/-- A text has at least one part. -/
theorem split_ne_nil (mark : Char) (text : String) : split mark text ≠ [] := by
  simp [split_eq_splitOn]

/-- A mark between two texts parts them. -/
theorem split_between (mark : Char) (text first second : String)
    (between : text.toList = first.toList ++ mark :: second.toList) :
    split mark text = split mark first ++ split mark second := by
  simp only [split_eq_splitOn, between, List.splitOn_append_cons_self, List.map_append]

/-- A text without a mark is one part. -/
theorem split_of_not_mem (mark : Char) (text : String) (clean : mark ∉ text.toList) :
    split mark text = [text] := by
  simp [split_eq_splitOn, List.splitOn_eq_singleton clean]

/-- No part has the mark in it. -/
theorem not_mem_of_mem_splitOn (mark : Char) (text part : List Char)
    (member : part ∈ text.splitOn mark) : mark ∉ part := by
  induction text generalizing part with
  | nil => simp_all
  | cons character rest ih =>
      rw [List.splitOn_cons_eq_if_modifyHead] at member
      by_cases same : character = mark
      · simp only [same, beq_self_eq_true, ↓reduceIte, List.mem_cons] at member
        rcases member with rfl | member
        · simp
        · exact ih part member
      · rcases parts : rest.splitOn mark with _ | ⟨head, others⟩
        · exact absurd parts (List.splitOn_ne_nil mark rest)
        · rw [parts] at member ih
          simp only [beq_iff_eq, same, ↓reduceIte, List.modifyHead_cons, List.mem_cons] at member
          rcases member with rfl | member
          · have clean := ih head (by simp)
            simp [clean, Ne.symm same]
          · exact ih part (by simp [member])

/-- No part has a mark in it. -/
theorem not_mem_of_mem_split (mark : Char) (text part : String) (member : part ∈ split mark text) :
    mark ∉ part.toList := by
  rw [split_eq_splitOn] at member
  obtain ⟨characters, inside, rfl⟩ := List.mem_map.mp member
  rw [String.toList_ofList]
  exact not_mem_of_mem_splitOn mark text.toList characters inside

/-- A mark between parts that have none parts them again. -/
theorem split_intercalate (mark : Char) (parts : List String) (present : parts ≠ [])
    (clean : ∀ part ∈ parts, mark ∉ part.toList) :
    split mark ((String.singleton mark).intercalate parts) = parts := by
  have characters : ([mark].intercalate (parts.map String.toList)).splitOn mark =
      parts.map String.toList :=
    List.splitOn_intercalate mark (by simpa using clean) (by simpa using present)
  simp [split_eq_splitOn, characters]

/-- The parts of a text with marks between them are the text. -/
theorem intercalate_split (mark : Char) (text : String) :
    (String.singleton mark).intercalate (split mark text) = text := by
  apply String.toList_inj.mp
  simp [split_eq_splitOn, List.intercalate_splitOn]

/-- The other characters of a text are those of its parts. -/
theorem mem_iff_mem_splitOn (mark character : Char) (text : List Char) (other : character ≠ mark) :
    character ∈ text ↔ ∃ part ∈ text.splitOn mark, character ∈ part := by
  induction text with
  | nil => simp
  | cons first rest ih =>
      rw [List.splitOn_cons_eq_if_modifyHead, List.mem_cons, ih]
      by_cases same : first = mark
      · have different : character ≠ first := fun equal => other (equal.trans same)
        simp [same, other]
      · rcases parts : rest.splitOn mark with _ | ⟨head, others⟩
        · exact absurd parts (List.splitOn_ne_nil mark rest)
        · simp [same, or_assoc]

/-- A character that is no mark lies in one of the parts. -/
theorem mem_iff_mem_split (mark character : Char) (text : String) (other : character ≠ mark) :
    character ∈ text.toList ↔ ∃ part ∈ split mark text, character ∈ part.toList := by
  rw [mem_iff_mem_splitOn mark character text.toList other, split_eq_splitOn]
  simp

/-- A text without the given character at its ends is left as it is. -/
theorem trimMark_of_ends (mark : Char) (text : String) (first : text.toList.head? ≠ some mark)
    (last : text.toList.getLast? ≠ some mark) : trimMark mark text = text := by
  have kept (characters : List Char) (start : characters.head? ≠ some mark) :
      characters.dropWhile (· == mark) = characters := by
    cases characters with
    | nil => rfl
    | cons character rest =>
        have other : character ≠ mark := by simpa using start
        rw [List.dropWhile_cons_of_neg (by simp [other])]
  have backwards := kept text.toList.reverse (by rwa [List.head?_reverse])
  simp [trimMark, kept _ first, backwards]

/-- A mark before a text is trimmed away. -/
theorem trimMark_cons (mark : Char) (text : String) :
    trimMark mark (String.singleton mark ++ text) = trimMark mark text := by
  simp [trimMark]

/-- Joined parts start with the first one, unless it is empty. -/
theorem head?_intercalate (mark : Char) (part : String) (rest : List String) (present : part ≠ "") :
    ((String.singleton mark).intercalate (part :: rest)).toList.head? = part.toList.head? := by
  cases rest with
  | nil => simp
  | cons next others =>
      have characters : part.toList ≠ [] := by simpa using present
      rw [String.intercalate_cons_cons, String.append_assoc, String.toList_append,
        List.head?_append_of_ne_nil _ characters]

/-- Joined parts end with the last one, unless it is empty. -/
theorem getLast?_intercalate (mark : Char) (parts : List String) (last : String)
    (final : parts.getLast? = some last) (present : last ≠ "") :
    ((String.singleton mark).intercalate parts).toList.getLast? = last.toList.getLast? := by
  have characters : last.toList ≠ [] := by simpa using present
  induction parts with
  | nil => cases final
  | cons part rest ih =>
      cases rest with
      | nil =>
          have only : part = last := by simpa using final
          simp [only]
      | cons next others =>
          have onward := ih (by simpa using final)
          have some : ((String.singleton mark).intercalate (next :: others)).toList ≠ [] := by
            intro empty
            rw [empty, List.getLast?_nil] at onward
            exact characters (List.getLast?_eq_none_iff.mp onward.symm)
          rw [String.intercalate_cons_cons, String.toList_append,
            List.getLast?_append_of_ne_nil _ some, onward]

/-- A text is split at its first mark. -/
theorem splitOnce_between (mark : Char) (first second : List Char) (clean : mark ∉ first) :
    splitOnce mark (String.ofList (first ++ mark :: second)) =
      some (String.ofList first, String.ofList second) := by
  have passes : ∀ character ∈ first, (character != mark) = true := by
    intro character member
    exact bne_iff_ne.mpr fun same => clean (same ▸ member)
  simp [splitOnce, List.dropWhile_append_of_pos passes, List.takeWhile_append_of_pos passes]

/-- A text is not split if the mark is not in it. -/
theorem splitOnce_eq_none_iff (mark : Char) (text : String) :
    splitOnce mark text = none ↔ mark ∉ text.toList := by
  constructor
  · intro uncut member
    obtain ⟨first, second, whole, clean⟩ := List.eq_append_cons_of_mem member
    rw [← String.ofList_toList (s := text), whole, splitOnce_between mark first second clean] at uncut
    cases uncut
  · intro clean
    have nothing : text.toList.dropWhile (· != mark) = [] :=
      List.dropWhile_eq_nil_iff.mpr fun _ member => bne_iff_ne.mpr fun same => clean (same ▸ member)
    rw [splitOnce, nothing]

/-- A text is cut in two at its first mark. -/
theorem splitOnce_eq_some_iff (mark : Char) (text first second : String) :
    splitOnce mark text = some (first, second) ↔
      mark ∉ first.toList ∧ text.toList = first.toList ++ mark :: second.toList := by
  constructor
  · intro cut
    have marked : mark ∈ text.toList := by
      by_contra clean
      rw [(splitOnce_eq_none_iff mark text).mpr clean] at cut
      cases cut
    obtain ⟨start, rest, whole, clean⟩ := List.eq_append_cons_of_mem marked
    rw [← String.ofList_toList (s := text), whole, splitOnce_between mark start rest clean] at cut
    cases cut
    simp only [String.toList_ofList]
    exact ⟨clean, whole⟩
  · rintro ⟨clean, whole⟩
    rw [← String.ofList_toList (s := text), whole, splitOnce_between mark _ _ clean,
      String.ofList_toList, String.ofList_toList]

/-- The start of a text is stripped from it. -/
theorem stripStart_append (start rest : String) :
    stripStart start (start ++ rest) = some rest := by
  have starts : start.toList.isPrefixOf (start ++ rest).toList = true := by
    rw [String.toList_append, List.isPrefixOf_iff_prefix]
    exact List.prefix_append start.toList rest.toList
  rw [stripStart, if_pos starts, String.toList_append, List.drop_left, String.ofList_toList]

/-- A text whose start is stripped had that start. -/
theorem eq_append_of_stripStart {start text rest : String}
    (stripped : stripStart start text = some rest) : text = start ++ rest := by
  unfold stripStart at stripped
  split at stripped
  · next starts =>
      obtain ⟨tail, whole⟩ := List.isPrefixOf_iff_prefix.mp starts
      cases stripped
      apply String.toList_inj.mp
      rw [← whole, String.toList_append, String.toList_ofList, List.drop_left]
  · cases stripped

/-- Two texts that have no marks fall apart from what follows them at its first mark. -/
theorem append_inj_of_marked {first second : List Char} {rest rest' : List Char}
    (isMark : Char → Bool) (clean : ∀ character ∈ first, isMark character = false)
    (clean' : ∀ character ∈ second, isMark character = false)
    (marked : ∀ character ∈ rest.head?, isMark character = true)
    (marked' : ∀ character ∈ rest'.head?, isMark character = true)
    (same : first ++ rest = second ++ rest') : first = second ∧ rest = rest' := by
  have front (start tail : List Char) (clean : ∀ character ∈ start, isMark character = false)
      (marked : ∀ character ∈ tail.head?, isMark character = true) :
      (start ++ tail).takeWhile (fun character => !isMark character) = start := by
    rw [List.takeWhile_append_of_pos (by simpa using clean)]
    cases tail with
    | nil => simp
    | cons character others =>
        have ends := marked character rfl
        simp [ends]
  have starts : first = second := by
    rw [← front first rest clean marked, same, front second rest' clean' marked']
  subst starts
  exact ⟨rfl, List.append_cancel_left same⟩

end ApiContract.Text
