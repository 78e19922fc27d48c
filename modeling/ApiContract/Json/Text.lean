import ApiContract.Json.Basic

/-
This file writes document trees, on one line and indented.
-/

namespace ApiContract.Json

def hexDigit (value : Nat) : Char :=
  if value < 10 then Char.ofNat (48 + value) else Char.ofNat (87 + value)

/-- Quotes, backslashes and characters below a space are escaped, everything else stands for itself.
-/
def escaped (character : Char) : List Char :=
  match character with
  | '"' => ['\\', '"']
  | '\\' => ['\\', '\\']
  | '\x08' => ['\\', 'b']
  | '\t' => ['\\', 't']
  | '\n' => ['\\', 'n']
  | '\x0c' => ['\\', 'f']
  | '\r' => ['\\', 'r']
  | other =>
      if other.toNat < 32 then
        ['\\', 'u', '0', '0', hexDigit (other.toNat / 16), hexDigit (other.toNat % 16)]
      else [other]

def quoted (value : String) : String :=
  String.ofList ('"' :: value.toList.flatMap escaped ++ ['"'])

mutual

/-- The text on one line, without spaces. -/
def text : Json → String
  | null => "null"
  | bool value => if value then "true" else "false"
  | number value => value.text
  | string value => quoted value
  | array items => "[" ++ String.intercalate "," (itemTexts items) ++ "]"
  | object members => "\x7b" ++ String.intercalate "," (memberTexts members) ++ "\x7d"

def itemTexts : List Json → List String
  | [] => []
  | item :: rest => text item :: itemTexts rest

def memberTexts : List (String × Json) → List String
  | [] => []
  | (key, value) :: rest => (quoted key ++ ":" ++ text value) :: memberTexts rest

end

/-- The start of a line at a depth. -/
def lineStart (depth : Nat) : String := "\n" ++ String.ofList (List.replicate (2 * depth) ' ')

mutual

/-- The text with one item or member a line; empty arrays and objects stay on one line. -/
def prettyAt (depth : Nat) : Json → String
  | array (item :: rest) =>
      "[" ++ String.intercalate "," (prettyItems (depth + 1) (item :: rest)) ++
        lineStart depth ++ "]"
  | object (member :: rest) =>
      "\x7b" ++ String.intercalate "," (prettyMembers (depth + 1) (member :: rest)) ++
        lineStart depth ++ "\x7d"
  | array [] => "[]"
  | object [] => "\x7b\x7d"
  | null => "null"
  | bool value => if value then "true" else "false"
  | number value => value.text
  | string value => quoted value

def prettyItems (depth : Nat) : List Json → List String
  | [] => []
  | item :: rest => (lineStart depth ++ prettyAt depth item) :: prettyItems depth rest

def prettyMembers (depth : Nat) : List (String × Json) → List String
  | [] => []
  | (key, value) :: rest =>
      (lineStart depth ++ quoted key ++ ": " ++ prettyAt depth value) :: prettyMembers depth rest

end

/-- The text indented by two spaces a level. -/
def pretty (json : Json) : String := prettyAt 0 json

end ApiContract.Json
