import ApiContract.Reference
import ApiContract.Proofs.Text.Decimal
import ApiContract.Proofs.Text.Split

/-
This file holds the places in a document as lists of steps from the root, and the pointers that are
written for them. A pointer that is read again leads to the very place it was written for, whatever
characters the names on the way have.
-/

namespace ApiContract

namespace Text

/-- A character that starts no pair is kept. -/
theorem replacePair_cons_of_ne {first second replacement character : Char} (rest : List Char)
    (other : character ≠ first) :
    replacePair first second replacement (character :: rest) =
      character :: replacePair first second replacement rest := by
  cases rest with
  | nil => simp [replacePair]
  | cons next others => simp [replacePair, other]

end Text

namespace Pointer

/-- The token that is read from an escaped one is the token itself, whatever tildes, slashes and digits
it has. -/
theorem unescape_escape (token : String) : unescape (escape token) = token := by
  have slashes : Text.replacePair '~' '1' '/' (escape token).toList =
      token.toList.flatMap fun character => if character = '~' then ['~', '0'] else [character] := by
    rw [escape, String.toList_ofList]
    induction token.toList with
    | nil => rfl
    | cons character rest ih =>
        by_cases tilde : character = '~'
        · subst tilde
          simp [Text.replacePair, Text.replacePair_cons_of_ne, ih]
        · by_cases slash : character = '/'
          · subst slash
            simp [Text.replacePair, ih]
          · simp [Text.replacePair_cons_of_ne, tilde, ih]
  have tildes (characters : List Char) :
      Text.replacePair '~' '0' '~' (characters.flatMap fun character =>
          if character = '~' then ['~', '0'] else [character]) = characters := by
    induction characters with
    | nil => rfl
    | cons character rest ih =>
        by_cases tilde : character = '~'
        · simp [Text.replacePair, tilde, ih]
        · simp [Text.replacePair_cons_of_ne, tilde, ih]
  rw [unescape, slashes, tildes, String.ofList_toList]

/-- A token without tildes and slashes is written as it is. -/
theorem escape_of_plain (token : String)
    (plain : ∀ character ∈ token.toList, character ≠ '~' ∧ character ≠ '/') :
    escape token = token := by
  apply String.toList_inj.mp
  rw [escape, String.toList_ofList]
  generalize token.toList = characters at plain ⊢
  induction characters with
  | nil => rfl
  | cons character rest ih =>
      have other := plain character (by simp)
      rw [List.flatMap_cons, ih fun next member => plain next (by simp [member])]
      simp [other]

/-- An escaped token has no slash in it. -/
theorem slash_not_mem_escape (token : String) : '/' ∉ (escape token).toList := by
  rw [escape, String.toList_ofList, List.mem_flatMap]
  rintro ⟨character, _, member⟩
  split at member
  · simp at member
  · simp at member
  · next noSlash => exact noSlash (List.mem_singleton.mp member).symm

/-- Only the empty token is escaped to nothing. -/
theorem escape_eq_empty_iff (token : String) : escape token = "" ↔ token = "" := by
  constructor
  · intro empty
    rw [← unescape_escape token, empty]
    rfl
  · rintro rfl
    rfl

end Pointer

namespace Json

/-- One step down in a document: to a member of an object, or to an item of an array at a position
of 64 bits. -/
inductive Step where
  | member (name : String)
  | item (position : UInt64)
  deriving DecidableEq, Repr

/-- A place in a document: the steps that lead there from the root. -/
abbrev Location := List Step

namespace Step

/-- The token of a step in a pointer. -/
def token : Step → String
  | member name => name
  | item position => toString position.toNat

/-- What is written for a step: a name with its tildes and slashes escaped, a position in decimal. -/
def text : Step → String
  | member name => Pointer.escape name
  | item position => toString position.toNat

end Step

/-- The pointer that is written for a place, with a slash before each step. -/
def Location.text (location : Location) : String :=
  String.join (location.map fun step => "/" ++ step.text)

/-- The node one step below another one. -/
def below? (node : Json) : Step → Option Json
  | .member name => node.member? name
  | .item position => node.items[position.toNat]?

/-- The node at a place of a document. -/
def nodeAt? (document : Json) (location : Location) : Option Json :=
  location.foldlM below? document

namespace Step

/-- A position has nothing in it to escape. -/
theorem text_eq_escape (step : Step) : step.text = Pointer.escape step.token := by
  cases step with
  | member name => rfl
  | item position =>
      symm
      apply Pointer.escape_of_plain
      intro digit member
      have isDigit := isDigit_of_mem_toString position.toNat digit member
      constructor <;> rintro rfl <;> cases isDigit

/-- The text of a step is unescaped to its token. -/
theorem unescape_text (step : Step) : Pointer.unescape step.text = step.token := by
  rw [text_eq_escape, Pointer.unescape_escape]

/-- The text of a step has no slash in it. -/
theorem slash_not_mem_text (step : Step) : '/' ∉ step.text.toList := by
  rw [text_eq_escape]
  exact Pointer.slash_not_mem_escape step.token

/-- Only the empty name leaves nothing to write. -/
theorem text_eq_empty_iff (step : Step) : step.text = "" ↔ step = .member "" := by
  rw [text_eq_escape, Pointer.escape_eq_empty_iff]
  cases step with
  | member name => simp [token]
  | item position => simp [token]

end Step

namespace Location

/-- Behind the slash at its start, a pointer has the steps with slashes between them. -/
theorem text_of_ne_nil (location : Location) (present : location ≠ []) :
    location.text =
      String.singleton '/' ++ (String.singleton '/').intercalate (location.map Step.text) := by
  have slash : String.singleton '/' = "/" := rfl
  induction location with
  | nil => exact absurd rfl present
  | cons step rest ih =>
      rcases rest with _ | ⟨next, others⟩
      · simp [text]
      · have onward := ih (by simp)
        rw [List.map_cons, List.map_cons, String.intercalate_cons_cons]
        simp only [text, List.map_cons, String.join_cons] at onward ⊢
        rw [onward, slash, String.append_assoc, String.append_assoc]

/-- The slashes between the steps of a pointer part it into what is written for them. -/
theorem split_steps (location : Location) (present : location ≠ []) :
    Text.split '/' ((String.singleton '/').intercalate (location.map Step.text)) =
      location.map Step.text := by
  apply Text.split_intercalate
  · simpa using present
  · intro part member
    obtain ⟨step, _, rfl⟩ := List.mem_map.mp member
    exact step.slash_not_mem_text

/-- Without its outer slashes, a pointer has all its steps, unless an empty name stands at one end. -/
theorem trimMark_text (location : Location) (present : location ≠ [])
    (first : location.head? ≠ some (.member "")) (last : location.getLast? ≠ some (.member "")) :
    Text.trimMark '/' location.text =
      (String.singleton '/').intercalate (location.map Step.text) := by
  rw [location.text_of_ne_nil present, Text.trimMark_cons]
  apply Text.trimMark_of_ends
  · rcases location with _ | ⟨step, rest⟩
    · exact absurd rfl present
    · have named : step.text ≠ "" := by
        intro empty
        exact first (congrArg some (step.text_eq_empty_iff.mp empty))
      rw [List.map_cons, Text.head?_intercalate '/' step.text _ named]
      intro slash
      exact step.slash_not_mem_text (List.mem_of_head? slash)
  · obtain ⟨step, final⟩ := Option.ne_none_iff_exists'.mp (mt List.getLast?_eq_none_iff.mp present)
    have named : step.text ≠ "" := by
      intro empty
      exact last (by rw [final, step.text_eq_empty_iff.mp empty])
    rw [Text.getLast?_intercalate '/' _ step.text (by simp [final]) named]
    intro slash
    exact step.slash_not_mem_text (List.mem_of_getLast? slash)

end Location

/-- A step that leads somewhere is taken by its token too. -/
theorem child?_token {node inner : Json} {step : Step} (down : node.below? step = some inner) :
    node.child? step.token = some inner := by
  cases step with
  | member name =>
      cases node with
      | object members => exact down
      | _ => cases down
  | item position =>
      cases node with
      | array items =>
          have fits : position.toNat < Nat.pow 2 64 := position.toNat_lt
          rw [child?, Step.token, Text.unsigned?_toString position.toNat fits]
          exact down
      | _ => cases down

/-- The steps of a pointer, each without its escapes, lead along the place that it was written for. -/
theorem foldlM_child?_text {document node : Json} (location : Location)
    (found : document.nodeAt? location = some node) :
    (location.map Step.text).foldlM (fun node step => node.child? (Pointer.unescape step)) document =
      some node := by
  induction location generalizing document with
  | nil => exact found
  | cons step rest ih =>
      rw [nodeAt?, List.foldlM_cons] at found
      obtain ⟨inner, down, onward⟩ := Option.bind_eq_some_iff.mp found
      rw [List.map_cons, List.foldlM_cons, step.unescape_text, child?_token down]
      exact ih onward

/-- The pointer that is written for a place of a document leads there, unless an empty name stands
at one of its ends. -/
theorem at?_text_of_nodeAt? (document node : Json) (location : Location)
    (first : location.head? ≠ some (.member "")) (last : location.getLast? ≠ some (.member ""))
    (found : document.nodeAt? location = some node) :
    document.at? location.text = some node := by
  by_cases root : location = []
  · subst root
    exact found
  · have walked := foldlM_child?_text location found
    have parts := location.split_steps root
    simp only [at?, location.trimMark_text root first last, parts]
    split
    · next empty =>
        rw [String.isEmpty_iff.mp empty] at parts
        obtain ⟨step, only, nothing⟩ := List.map_eq_singleton_iff.mp parts.symm
        have unnamed : step = .member "" := step.text_eq_empty_iff.mp nothing
        exact absurd (by rw [only, unnamed]; rfl) first
    · exact walked

end Json

namespace OddNames

open Json

/-- A document whose names look like escapes, pointers, nothing and positions. -/
def document : Json :=
  .object [("~01", .object [("", .array [.object [("a/b", .object [("7", .bool true)])]])])]

def location : Location := [.member "~01", .member "", .item 0, .member "a/b", .member "7"]

/-- A pointer through odd names leads to the node that it was written for. -/
theorem at?_of_odd_names :
    location.head? ≠ some (.member "") ∧ location.getLast? ≠ some (.member "") ∧
      document.nodeAt? location = some (.bool true) ∧ location.text = "/~001//0/a~1b/7" ∧
        document.at? location.text = some (.bool true) := by
  have first : location.head? ≠ some (.member "") := by decide
  have last : location.getLast? ≠ some (.member "") := by decide
  have found : document.nodeAt? location = some (.bool true) := by rfl
  exact ⟨first, last, found, by decide,
    at?_text_of_nodeAt? document _ location first last found⟩

end OddNames

end ApiContract
