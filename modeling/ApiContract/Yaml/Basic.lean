import ApiContract.Number.Text
import ApiContract.Text.Visible

/-
This file holds the nodes of a YAML document. Keys of mappings are nodes of any kind, and a number
need not be finite.
-/

namespace ApiContract.Yaml

/-- A number of a YAML document. -/
inductive Numeral where
  | integer (value : Int)
  | float (value : Binary64)
  | infinity (negative : Bool)
  | notANumber
  deriving DecidableEq, Repr

namespace Numeral

def text : Numeral → String
  | integer value => toString value
  | float value => value.text .key
  | infinity negative => if negative then "-.inf" else ".inf"
  | notANumber => ".nan"

/-- Whether two numbers are one key. An integer and a float never are. -/
def same : Numeral → Numeral → Bool
  | integer first, integer second => first == second
  | float first, float second =>
      let (above, below) := first.fraction
      let (above', below') := second.fraction
      above * below' == above' * below
  | infinity first, infinity second => first == second
  | notANumber, notANumber => true
  | _, _ => false

end Numeral

/-- A node of a YAML document. -/
inductive Node where
  | null
  | bool (value : Bool)
  | number (value : Numeral)
  | text (value : String)
  | sequence (items : List Node)
  | mapping (entries : List (Node × Node))
  | tagged (tag : String) (content : Node)
  deriving Repr, Inhabited

namespace Node

mutual

/-- Whether two nodes are one key. The order of the entries of a mapping does not count. -/
def same : Node → Node → Bool
  | null, null => true
  | bool first, bool second => first == second
  | number first, number second => first.same second
  | text first, text second => first == second
  | sequence first, sequence second => sameItems first second
  | mapping first, mapping second => first.length == second.length && allEntriesIn second first
  | tagged first content, tagged second content' => first == second && same content content'
  | _, _ => false

def sameItems : List Node → List Node → Bool
  | [], [] => true
  | first :: rest, second :: rest' => same first second && sameItems rest rest'
  | _, _ => false

def allEntriesIn (entries : List (Node × Node)) : List (Node × Node) → Bool
  | [] => true
  | (key, value) :: rest =>
      (entries.any fun entry => same key entry.1 && same value entry.2) &&
        allEntriesIn entries rest

end

mutual

/-- The text that shows the structure of a node. -/
def structureText : Node → String
  | null => "Null"
  | bool value => "Bool(" ++ toString value ++ ")"
  | number value => "Number(" ++ value.text ++ ")"
  | text value => "String(" ++ Text.visible value ++ ")"
  | sequence items => "Sequence [" ++ String.intercalate ", " (itemTexts items) ++ "]"
  | mapping entries => "Mapping \x7b" ++ String.intercalate ", " (entryTexts entries) ++ "\x7d"
  | tagged tag content =>
      "TaggedValue \x7b tag: !" ++ tag ++ ", value: " ++ structureText content ++ " \x7d"

def itemTexts : List Node → List String
  | [] => []
  | item :: rest => structureText item :: itemTexts rest

def entryTexts : List (Node × Node) → List String
  | [] => []
  | (key, value) :: rest => (keyText key ++ ": " ++ structureText value) :: entryTexts rest

/-- Scalar keys are shown without their kind. -/
def keyText : Node → String
  | bool value => toString value
  | number value => value.text
  | text value => Text.visible value
  | null => "Null"
  | sequence items => "Sequence [" ++ String.intercalate ", " (itemTexts items) ++ "]"
  | mapping entries => "Mapping \x7b" ++ String.intercalate ", " (entryTexts entries) ++ "\x7d"
  | tagged tag content =>
      "TaggedValue \x7b tag: !" ++ tag ++ ", value: " ++ structureText content ++ " \x7d"

end

end Node

end ApiContract.Yaml
