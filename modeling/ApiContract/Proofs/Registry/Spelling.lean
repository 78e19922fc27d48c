import ApiContract.Proofs.Index.Reachability
import Mathlib

/-
This file proves that the outcome of a call does not depend on how the call is spelled: with or without
the prefix of the interface, with or without a query or a fragment, and in any case of the method.
-/

namespace ApiContract

/-- Whether a path is the prefix of the interface, or lies below it as whole segments. Nothing lies
below a prefix of slashes alone. -/
def IsBelow (apiPrefix path : String) : Prop :=
  let start := Text.trimMarkEnd '/' apiPrefix
  start.isEmpty = false ∧ (path = start ∨ Text.startsWith path (start ++ "/") = true)

/-- A path that is not below the prefix of the interface is left as it is. -/
theorem endpointPath_bare (apiPrefix path : String) (plain : IsPlain path)
    (apart : ¬IsBelow apiPrefix path) : endpointPath path apiPrefix = path := by
  have whole := takeWhile_plain path "" plain nofun
  rw [String.append_empty] at whole
  unfold endpointPath
  dsimp only
  rw [whole]
  split
  · rfl
  · next present =>
      rw [Bool.not_eq_true] at present
      split
      · rfl
      · next rest stripped =>
          have parts := Text.eq_append_of_stripStart stripped
          split
          · next empty =>
              rw [String.isEmpty_iff.mp empty, String.append_empty] at parts
              exact absurd ⟨present, .inl parts⟩ apart
          · split
            · next below =>
                have starts : Text.startsWith path
                    (Text.trimMarkEnd '/' apiPrefix ++ "/") = true := by
                  rw [parts, Text.startsWith, List.isPrefixOf_iff_prefix, String.toList_append,
                    String.toList_append, List.prefix_append_right_inj]
                  exact List.isPrefixOf_iff_prefix.mp below
                exact absurd ⟨present, .inr starts⟩ apart
            · rfl

/-- Letters are below the characters of two bytes. -/
theorem toNat_lt_of_isAlpha (character : Char) (letter : character.isAlpha = true) :
    character.toNat < 128 := by
  simp only [Char.isAlpha, Char.isUpper, Char.isLower, Bool.or_eq_true, Bool.and_eq_true,
    decide_eq_true_eq, ge_iff_le, UInt32.le_iff_toNat_le] at letter
  rcases letter with capital | small
  · exact Nat.lt_of_le_of_lt capital.2 (by decide)
  · exact Nat.lt_of_le_of_lt small.2 (by decide)

/-- A character in lower case has the upper case of the character. -/
theorem upperCharacters_toLower (character : Char) :
    Unicode.upperCharacters character.toLower = Unicode.upperCharacters character := by
  cases letter : character.isAlpha with
  | true =>
      have folded : character.toLower.isAlpha = true := by rwa [Char.isAlpha_toLower_eq_isAlpha]
      simp only [Unicode.upperCharacters, toNat_lt_of_isAlpha _ letter, toNat_lt_of_isAlpha _ folded,
        if_true, Char.toUpper_toLower_eq_toUpper]
  | false =>
      rw [Char.isAlpha, Bool.or_eq_false_iff] at letter
      rw [Char.toLower_eq_of_not_isUpper (by rw [letter.1]; exact Bool.false_ne_true)]

/-- Texts that differ in the case of ASCII letters alone are the same in upper case. -/
theorem upper_eq_of_sameIgnoringCase {first second : String}
    (same : Text.sameIgnoringCase first second = true) :
    Unicode.upper first = Unicode.upper second := by
  have folded (text : String) : text.toList.flatMap Unicode.upperCharacters =
      (text.toList.map Char.toLower).flatMap Unicode.upperCharacters := by
    simp only [List.flatMap_map, upperCharacters_toLower]
  rw [Unicode.upper, Unicode.upper, folded first, folded second, beq_iff_eq.mp same]

/-- A method is read from a text in small or in capital letters alike. -/
theorem Method.ofString?_congr {first second : String}
    (same : Text.sameIgnoringCase first second = true) : ofString? first = ofString? second := by
  simp only [ofString?, Text.sameIgnoringCase, beq_iff_eq.mp same]

namespace Registry

/-- A call is answered by its module, its path below the prefix, and its method without the case of the
letters. -/
theorem checkResponse_congr (registry : Registry) (module : String) {spelled spelled' : String}
    (same : Text.sameIgnoringCase spelled spelled' = true) {endpoint endpoint' : String}
    (paths : endpointPath endpoint registry.config.apiPrefix =
      endpointPath endpoint' registry.config.apiPrefix) (status : Nat) (body : Json) :
    registry.checkResponse module spelled endpoint status body =
      registry.checkResponse module spelled' endpoint' status body := by
  simp only [checkResponse, paths, upper_eq_of_sameIgnoringCase same, Method.ofString?_congr same]

/-- A call below the prefix, with a query or a fragment, has the outcome of the bare path, however
the letters of its method are written. -/
theorem checkResponse_ignores_spelling (registry : Registry)
    (plainPrefix : IsPlain registry.config.apiPrefix) (module : String) (status : Nat) (body : Json)
    (path : String) (absolute : Text.startsWith path "/" = true) (plain : IsPlain path)
    (apart : ¬IsBelow registry.config.apiPrefix path) (tail : String) (ends : IsTail tail)
    (spelled spelled' : String) (same : Text.sameIgnoringCase spelled spelled' = true) :
    registry.checkResponse module spelled
        (Text.trimMarkEnd '/' registry.config.apiPrefix ++ path ++ tail) status body =
      registry.checkResponse module spelled' path status body := by
  refine registry.checkResponse_congr module same ?_ status body
  rw [endpointPath_prefixed _ path tail plainPrefix plain absolute ends,
    endpointPath_bare _ path plain apart]

end Registry

namespace VersionModule

open Registry

/-- A module with one path, whose first segments look like a later version of the prefix. -/
def index : ModuleIndex :=
  (ModuleIndex.empty "users" ⟨"/users.yaml"⟩).insertResponse ⟨.get, "/api/v10/users", "200"⟩
    (.object [("type", .string "array")])

def registry : Registry := (Registry.empty .default).insert "users" index

/-- Both spellings of a call are checked alike, and so are both spellings of an unknown method. -/
theorem checkResponse_alike_below_prefix :
    IsPlain registry.config.apiPrefix ∧ IsPlain "/api/v10/users" ∧
      ¬IsBelow registry.config.apiPrefix "/api/v10/users" ∧ IsTail "?page=2#top" ∧
        (registry.checkResponse "users" "GET" "/api/v10/users" 200 .null).isSkipped = false ∧
          registry.checkResponse "users" "gEt" "/api/v1/api/v10/users?page=2#top" 200 .null =
              registry.checkResponse "users" "GET" "/api/v10/users" 200 .null ∧
            registry.checkResponse "users" "Head" "/api/v1/api/v10/users?page=2#top" 200 .null =
              registry.checkResponse "users" "hEAD" "/api/v10/users" 200 .null := by
  have plainPrefix : IsPlain registry.config.apiPrefix := ⟨by decide, by decide⟩
  have plain : IsPlain "/api/v10/users" := ⟨by decide, by decide⟩
  have apart : ¬IsBelow registry.config.apiPrefix "/api/v10/users" := by
    unfold IsBelow
    decide
  have query : IsTail "?page=2#top" := by
    rintro first ⟨⟩
    exact .inl rfl
  have checked := registry.checkResponse_of_responseSchema "users" "GET" "/api/v10/users" 200 .null
    index .get "GET /api/v10/users 200" _ rfl rfl rfl
  have alike := checkResponse_ignores_spelling registry plainPrefix "users" 200 .null
    "/api/v10/users" (by decide) plain apart "?page=2#top" query
  refine ⟨plainPrefix, plain, apart, query, ?_, alike "gEt" "GET" (by decide),
    alike "Head" "hEAD" (by decide)⟩
  rw [checked]
  exact Outcome.isSkipped_ofCheck _ _ _ _

end VersionModule

end ApiContract
