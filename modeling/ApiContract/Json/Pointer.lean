import ApiContract.Json.Basic
import ApiContract.Text.Basic

/-
This file holds pointers into documents: the keys and positions on the way from the root.
-/

namespace ApiContract

/-- The way from the root of a document to one of its values. -/
structure Pointer where
  tokens : List String
  deriving DecidableEq, Repr

namespace Pointer

def root : Pointer := ⟨[]⟩

/-- The pointer one step further. -/
def push (pointer : Pointer) (token : String) : Pointer := ⟨pointer.tokens ++ [token]⟩

def pushIndex (pointer : Pointer) (index : Nat) : Pointer := pointer.push (toString index)

/-- A token without slashes and tildes. -/
def escape (token : String) : String :=
  String.ofList (token.toList.flatMap fun character =>
    match character with
    | '~' => ['~', '0']
    | '/' => ['~', '1']
    | other => [other])

/-- The token that an escaped one stands for. -/
def unescape (token : String) : String :=
  String.ofList
    (Text.replacePair '~' '0' '~' (Text.replacePair '~' '1' '/' token.toList))

/-- The pointer as a text. -/
def text (pointer : Pointer) : String :=
  String.join (pointer.tokens.map fun token => "/" ++ escape token)

end Pointer

end ApiContract
