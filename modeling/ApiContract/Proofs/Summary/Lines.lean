import ApiContract.Summary
import ApiContract.Proofs.Text.Split

/-
This file says what the lines of a text are, and that a text of ended lines falls into these lines.
-/

namespace ApiContract

namespace Summary

/-- Whether a text has the given lines. A line feed ends a line, with the carriage return before it if
there is one; the last line may lack it. -/
inductive HasLines : String → List String → Prop where
  | nil : HasLines "" []
  | last (line : String) (present : line ≠ "") (clean : '\n' ∉ line.toList) : HasLines line [line]
  | feed (line : String) {rest : String} {lines : List String} (clean : '\n' ∉ line.toList)
      (bare : line.toList.getLast? ≠ some '\r') (onward : HasLines rest lines) :
      HasLines (line ++ "\n" ++ rest) (line :: lines)
  | returnFeed (line : String) {rest : String} {lines : List String} (clean : '\n' ∉ line.toList)
      (onward : HasLines rest lines) : HasLines (line ++ "\r\n" ++ rest) (line :: lines)

/-- A text without a line feed is one line, unless it is empty. -/
theorem textLines_of_not_mem (text : String) (clean : '\n' ∉ text.toList) :
    textLines text = if text = "" then [] else [text] := by
  have parts : Text.splitAt '\n' text.toList = [text.toList] := by
    rw [Text.splitAt_eq_splitOn, List.splitOn_eq_singleton clean]
  simp only [textLines, parts]
  by_cases empty : text = "" <;> simp [empty]

/-- The first line of a text is what stands before the line feed, without a carriage return. -/
theorem textLines_between (text : String) (first : List Char) (rest : String)
    (between : text.toList = first ++ '\n' :: rest.toList) (clean : '\n' ∉ first) :
    textLines text =
      String.ofList (if first.getLast? = some '\r' then first.dropLast else first) ::
        textLines rest := by
  obtain ⟨part, parts, onward⟩ :=
    List.exists_cons_of_ne_nil (List.splitOn_ne_nil '\n' rest.toList)
  have whole : Text.splitAt '\n' text.toList = first :: part :: parts := by
    rw [Text.splitAt_eq_splitOn, between, List.splitOn_append_cons_self,
      List.splitOn_eq_singleton clean, onward, List.singleton_append]
  have remaining : Text.splitAt '\n' rest.toList = part :: parts := by
    rw [Text.splitAt_eq_splitOn, onward]
  simp only [textLines, whole, remaining, List.dropLast_cons_cons, List.map_cons,
    List.getLast?_cons_cons]
  split <;> rfl

/-- A text has the lines that are read off it. -/
theorem hasLines_textLines (text : String) : HasLines text (textLines text) := by
  induction size : text.toList.length using Nat.strong_induction_on generalizing text with
  | _ size ih =>
      by_cases marked : '\n' ∈ text.toList
      · obtain ⟨first, second, between, clean⟩ := List.eq_append_cons_of_mem marked
        have onward := ih second.length (by simp [← size, between]; omega) (String.ofList second)
          (by rw [String.toList_ofList])
        rw [textLines_between text first (String.ofList second) (by simpa using between) clean]
        split
        · next returned =>
            obtain ⟨line, rfl⟩ := List.getLast?_eq_some_iff.mp returned
            have whole : text = String.ofList line ++ "\r\n" ++ String.ofList second :=
              String.toList_inj.mp (by simp [between])
            rw [List.dropLast_concat, whole]
            refine .returnFeed _ ?_ onward
            simpa using fun member => clean (List.mem_append_left _ member)
        · next bare =>
            have whole : text = String.ofList first ++ "\n" ++ String.ofList second :=
              String.toList_inj.mp (by simp [between])
            rw [whole]
            exact .feed _ (by simpa using clean) (by simpa using bare) onward
      · rw [textLines_of_not_mem text marked]
        split
        · next empty => exact empty ▸ .nil
        · next present => exact .last text present marked

/-- No line has a line feed in it. -/
theorem HasLines.clean {text : String} {lines : List String} (has : HasLines text lines) :
    ∀ line ∈ lines, '\n' ∉ line.toList := by
  induction has with
  | nil => exact nofun
  | last line present clean => simpa using clean
  | feed line clean bare onward ih => exact List.forall_mem_cons.mpr ⟨clean, ih⟩
  | returnFeed line clean onward ih => exact List.forall_mem_cons.mpr ⟨clean, ih⟩

/-- Lines that are ended one after the other are the parts of the text, before an empty one. -/
theorem split_join_ended (lines : List String) (clean : ∀ line ∈ lines, '\n' ∉ line.toList) :
    Text.split '\n' (String.join (lines.map (· ++ "\n"))) = lines ++ [""] := by
  induction lines with
  | nil => exact Text.split_of_not_mem '\n' "" (by simp)
  | cons line rest ih =>
      obtain ⟨own, others⟩ := List.forall_mem_cons.mp clean
      rw [List.map_cons, String.join_cons,
        Text.split_between '\n' _ line (String.join (rest.map (· ++ "\n"))) (by simp),
        Text.split_of_not_mem '\n' line own, ih others, List.singleton_append, List.cons_append]

end Summary

end ApiContract
