import ApiContract.Number
import ApiContract.Table

/-
This file holds the document tree. Members of an object are kept in the order of their keys, so that
every walk over an object is in key order. The order is not a part of the type, since a nested
inductive type cannot carry a proof about its own members; it is a predicate on whole trees, which
all trees that are read satisfy.
-/

namespace ApiContract

/-- A document tree. -/
inductive Json where
  | null
  | bool (value : Bool)
  | number (value : Number)
  | string (value : String)
  | array (items : List Json)
  | object (members : List (String × Json))
  deriving Repr, Inhabited

namespace Json

/-- Members in key order; the last value of a repeated key is kept. -/
def sortMembers (members : List (String × Json)) : List (String × Json) :=
  members.foldl (fun sorted member => Table.insert member.1 member.2 sorted) []

/-- The object with the given members. -/
def ofMembers (members : List (String × Json)) : Json := object (sortMembers members)

def integer (value : Int) : Json := number (.integer value)

/-- The value of a member of an object. -/
def member? (json : Json) (key : String) : Option Json :=
  match json with
  | object members => members.lookup key
  | _ => none

/-- The members of an object; any other value has none. -/
def members : Json → List (String × Json)
  | object members => members
  | _ => []

/-- The items of an array; any other value has none. -/
def items : Json → List Json
  | array items => items
  | _ => []

def isObject : Json → Bool
  | object _ => true
  | _ => false

def string? : Json → Option String
  | string value => some value
  | _ => none

def object? : Json → Option (List (String × Json))
  | object members => some members
  | _ => none

def array? : Json → Option (List Json)
  | array items => some items
  | _ => none

mutual

/-- Whether two trees agree, where a given relation compares their numbers. -/
def agree (numbers : Number → Number → Bool) : Json → Json → Bool
  | null, null => true
  | bool first, bool second => first == second
  | number first, number second => numbers first second
  | string first, string second => first == second
  | array first, array second => agreeItems numbers first second
  | object first, object second => agreeMembers numbers first second
  | _, _ => false

def agreeItems (numbers : Number → Number → Bool) : List Json → List Json → Bool
  | [], [] => true
  | first :: rest, second :: rest' =>
      agree numbers first second && agreeItems numbers rest rest'
  | _, _ => false

def agreeMembers (numbers : Number → Number → Bool) :
    List (String × Json) → List (String × Json) → Bool
  | [], [] => true
  | (key, first) :: rest, (key', second) :: rest' =>
      key == key' && agree numbers first second && agreeMembers numbers rest rest'
  | _, _ => false

end

/-- Equality of trees, where an integer and a float differ. -/
def same : Json → Json → Bool := agree Number.same

/-- Equality of trees, where numbers are compared by their values. -/
def sameValue : Json → Json → Bool := agree Number.sameValue

/-- Whether no two items have the same value. -/
def allDistinct : List Json → Bool
  | [] => true
  | item :: rest => !rest.any item.sameValue && allDistinct rest

end Json

end ApiContract
