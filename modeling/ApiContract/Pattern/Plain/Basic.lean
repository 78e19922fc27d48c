import ApiContract.Pattern.Anchor

/-
This file holds the trees of the plain grammar of patterns, which has neither look-around nor back
references, and the depth to which they are nested.
-/

namespace ApiContract.Pattern.Plain

/-- The sets of characters that a letter names. -/
inductive Letter where
  | digit
  | space
  | word
  deriving DecidableEq, Repr

/-- The sets of characters that a property names. -/
inductive Query where
  | named (name : List Char)
  | valued (name value : List Char)
  deriving DecidableEq, Repr

/-- The operators between the parts of a class. -/
inductive SetOperator where
  | intersection
  | difference
  | symmetricDifference
  deriving DecidableEq, Repr

mutual

/-- The inside of a class in brackets. -/
inductive ClassNode where
  | item (item : ClassItem)
  | operation (operator : SetOperator) (left right : ClassNode)

/-- A part of a class. -/
inductive ClassItem where
  | single (character : Char)
  | range (first last : Char)
  | ascii (negated : Bool) (set : CodeSet)
  | letter (negated : Bool) (letter : Letter)
  | property (negated : Bool) (query : Query)
  | nested (negated : Bool) (node : ClassNode)
  | union (items : List ClassItem)

end

/-- Changes of flags; a flag that is not mentioned stays as it is. -/
structure FlagChange where
  flags : List (Char × Bool)
  deriving DecidableEq, Repr

def FlagChange.find? (change : FlagChange) (flag : Char) : Option Bool := change.flags.lookup flag

/-- A pattern of the plain grammar. -/
inductive Node where
  | empty
  | flags (change : FlagChange)
  | literal (character : Char)
  | dot
  | anchor (kind : Anchor)
  | letter (negated : Bool) (letter : Letter)
  | property (negated : Bool) (query : Query)
  | bracketed (negated : Bool) (inside : ClassNode)
  | repetition (body : Node) (least : Nat) (most : Option Nat) (greedy : Bool)
  | group (index : Nat) (body : Node)
  | flagged (change : FlagChange) (body : Node)
  | alternation (branches : List Node)
  | concatenation (parts : List Node)

mutual

def ClassNode.height : ClassNode → Nat
  | .item item => item.height
  | .operation _ left right => 1 + max left.height right.height

def ClassItem.height : ClassItem → Nat
  | .nested _ node => 1 + node.height
  | .union items => 1 + itemsHeight items
  | _ => 0

def itemsHeight : List ClassItem → Nat
  | [] => 0
  | item :: rest => max item.height (itemsHeight rest)

end

mutual

/-- The greatest number of composed nodes that lie inside one another. -/
def Node.height : Node → Nat
  | .bracketed _ inside => 1 + inside.height
  | .repetition body _ _ _ => 1 + body.height
  | .group _ body => 1 + body.height
  | .flagged _ body => 1 + body.height
  | .alternation branches => 1 + nodesHeight branches
  | .concatenation parts => 1 + nodesHeight parts
  | _ => 0

def nodesHeight : List Node → Nat
  | [] => 0
  | node :: rest => max node.height (nodesHeight rest)

end

/-- The number of nodes that may lie inside one another. -/
def heightLimit : Nat := 250

end ApiContract.Pattern.Plain
