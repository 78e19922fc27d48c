import ApiContract.Pattern.Plain.Basic
import ApiContract.Unicode.Case

/-
This file holds patterns as regular expressions over sets of characters, and builds them from the
trees of the plain grammar.
-/

namespace ApiContract.Pattern.Plain

/-- A regular expression. -/
inductive Regular where
  | empty
  | set (set : CodeSet)
  | anchor (kind : Anchor)
  | sequence (parts : List Regular)
  | choice (branches : List Regular)
  | repetition (body : Regular) (least : Nat) (most : Option Nat) (greedy : Bool)
  | group (index : Nat) (body : Regular)

/-- The flags that are in force. -/
structure Flags where
  anyCase : Bool
  manyLines : Bool
  dotAll : Bool
  swapGreed : Bool
  deriving DecidableEq, Repr

def Flags.none : Flags := ⟨false, false, false, false⟩

def Flags.apply (flags : Flags) (change : FlagChange) : Flags :=
  ⟨(change.find? 'i').getD flags.anyCase, (change.find? 'm').getD flags.manyLines,
    (change.find? 's').getD flags.dotAll, (change.find? 'U').getD flags.swapGreed⟩

/-- The set with all cases if case is ignored, and then its complement if it is negated. -/
def foldAndNegate (anyCase negated : Bool) (set : CodeSet) : CodeSet :=
  let set := if anyCase then Unicode.withOtherCases set else set
  if negated then set.complement else set

def Letter.set (letter : Letter) (negated : Bool) : CodeSet :=
  let set :=
    match letter with
    | .digit => Unicode.digitSet
    | .space => Unicode.spaceSet
    | .word => Unicode.wordSet
  if negated then set.complement else set

/-- The set of a property, if it exists. -/
def Query.set? : Query → Option CodeSet
  | .named name => Unicode.namedSet? name
  | .valued name value => Unicode.valuedSet? name value

def SetOperator.apply (first second : CodeSet) : SetOperator → CodeSet
  | .intersection => first.inter second
  | .difference => first.diff second
  | .symmetricDifference => first.symmDiff second

mutual

/-- The set of the inside of a class. Both sides of an operator ignore case before it applies. -/
def ClassNode.set? (anyCase : Bool) : ClassNode → Option CodeSet
  | .item item => item.set? anyCase
  | .operation operator left right => do
      let left ← left.set? anyCase
      let right ← right.set? anyCase
      return operator.apply (foldAndNegate anyCase false left) (foldAndNegate anyCase false right)

def ClassItem.set? (anyCase : Bool) : ClassItem → Option CodeSet
  | .single character => some (CodeSet.single character.toNat)
  | .range first last =>
      some ((CodeSet.ofRange first.toNat last.toNat).inter CodeSet.characters)
  | .ascii negated set => some (foldAndNegate anyCase negated set)
  | .letter negated letter => some (letter.set negated)
  | .property negated query => query.set?.map (foldAndNegate anyCase negated)
  | .nested negated node => (node.set? anyCase).map (foldAndNegate anyCase negated)
  | .union items => (itemSets? anyCase items).map CodeSet.ofList

def itemSets? (anyCase : Bool) : List ClassItem → Option (List CodeSet)
  | [] => some []
  | item :: rest => do return (← item.set? anyCase) :: (← itemSets? anyCase rest)

end

/-- The condition of a mark under the flags: the marks of lines are those of the text, unless the
text counts as many lines. -/
def Anchor.under (flags : Flags) : Anchor → Anchor
  | .lineStart => if flags.manyLines then .lineStart else .textStart
  | .lineEnd => if flags.manyLines then .lineEnd else .textEnd
  | other => other

mutual

/-- The regular expression of a node, and the flags after it; `none` if a property does not exist.
-/
def Node.regular? : Node → Flags → Option (Regular × Flags)
  | .empty, flags => some (.empty, flags)
  | .flags change, flags => some (.empty, flags.apply change)
  | .literal character, flags =>
      some (.set (foldAndNegate flags.anyCase false (CodeSet.single character.toNat)), flags)
  | .dot, flags =>
      some (.set (if flags.dotAll then CodeSet.characters else (CodeSet.single 10).complement),
        flags)
  | .anchor kind, flags => some (.anchor (Anchor.under flags kind), flags)
  | .letter negated letter, flags => some (.set (letter.set negated), flags)
  | .property negated query, flags =>
      query.set?.map fun set => (.set (foldAndNegate flags.anyCase negated set), flags)
  | .bracketed negated inside, flags =>
      (inside.set? flags.anyCase).map fun set =>
        (.set (foldAndNegate flags.anyCase negated set), flags)
  | .repetition body least most greedy, flags => do
      let (body, after) ← body.regular? flags
      return (.repetition body least most (greedy != flags.swapGreed), after)
  | .group index body, flags => do
      let (body, _) ← body.regular? flags
      return (.group index body, flags)
  | .flagged change body, flags => do
      let (body, _) ← body.regular? (flags.apply change)
      return (body, flags)
  | .alternation branches, flags => do
      let (branches, after) ← regulars? branches flags
      return (.choice branches, after)
  | .concatenation parts, flags => do
      let (parts, after) ← regulars? parts flags
      return (.sequence parts, after)

def regulars? : List Node → Flags → Option (List Regular × Flags)
  | [], flags => some ([], flags)
  | node :: rest, flags => do
      let (first, after) ← node.regular? flags
      let (others, last) ← regulars? rest after
      return (first :: others, last)

end

end ApiContract.Pattern.Plain
