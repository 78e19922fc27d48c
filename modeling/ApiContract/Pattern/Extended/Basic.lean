import ApiContract.Pattern.Anchor
import ApiContract.Pattern.Plain.Reader

/-
This file holds patterns of the extended grammar, which has look-around, back references, atomic
groups and conditions, and writes those without such parts in the plain grammar.
-/

namespace ApiContract.Pattern.Extended

/-- A pattern of the extended grammar. A missing greatest count stands for no bound. -/
inductive Expression where
  | empty
  | any (newline : Bool)
  | literal (character : Char) (anyCase : Bool)
  | anchor (kind : Anchor)
  | sequence (parts : List Expression)
  | choice (branches : List Expression)
  | group (index : Nat) (body : Expression)
  | look (behind positive : Bool) (body : Expression)
  | repetition (body : Expression) (least : Nat) (most : Option Nat) (greedy : Bool)
  | plain (source : List Char) (anyCase : Bool)
  | reference (index : Nat)
  | atomic (body : Expression)
  | keep
  | resume
  | isSet (index : Nat)
  | conditional (condition whenTrue whenFalse : Expression)
  deriving Repr

namespace Expression

def isEmpty : Expression → Bool
  | empty => true
  | _ => false

mutual

/-- The least number of characters that an expression takes. -/
def least : Expression → Nat
  | any _ => 1
  | literal _ _ => 1
  | sequence parts => leastSum parts
  | choice branches => leastOf branches
  | group _ body => body.least
  | repetition body count _ _ => body.least * count
  | plain _ _ => 1
  | atomic body => body.least
  | conditional condition whenTrue whenFalse =>
      condition.least + min whenTrue.least whenFalse.least
  | _ => 0

def leastSum : List Expression → Nat
  | [] => 0
  | part :: rest => part.least + leastSum rest

def leastOf : List Expression → Nat
  | [] => 0
  | [branch] => branch.least
  | branch :: rest => min branch.least (leastOf rest)

end

mutual

/-- Whether an expression always takes the same number of characters, as far as its parts tell. -/
def isFixed : Expression → Bool
  | sequence parts => allFixed parts
  | choice branches => allEqual none branches
  | group _ body => body.isFixed
  | repetition body count most _ => body.isFixed && most == some count
  | reference _ => false
  | atomic body => body.isFixed
  | conditional condition whenTrue whenFalse =>
      condition.isFixed && whenTrue.isFixed && whenFalse.isFixed &&
        condition.least + whenTrue.least == whenFalse.least
  | _ => true

def allFixed : List Expression → Bool
  | [] => true
  | part :: rest => part.isFixed && allFixed rest

/-- Whether all expressions take the same number of characters, which is given if it is known. -/
def allEqual (length : Option Nat) : List Expression → Bool
  | [] => true
  | branch :: rest =>
      branch.isFixed && length.all (· == branch.least) && allEqual (some branch.least) rest

end

mutual

/-- Whether an expression needs a backtracking search: it has a part that the plain grammar lacks, a
word boundary, or a group to which the pattern refers. -/
def isHard (references : List Nat) : Expression → Bool
  | anchor kind => kind ∈ [.wordBoundary, .noWordBoundary, .wordStart, .wordEnd]
  | sequence parts => anyHard references parts
  | choice branches => anyHard references branches
  | group index body => isHard references body || references.contains index
  | repetition body _ _ _ => isHard references body
  | look _ _ _ | reference _ | atomic _ | keep | resume | isSet _ | conditional _ _ _ => true
  | empty | any _ | literal _ _ | plain _ _ => false

def anyHard (references : List Nat) : List Expression → Bool
  | [] => false
  | part :: rest => isHard references part || anyHard references rest

end

mutual

/-- The number of groups in an expression. -/
def groupCount : Expression → Nat
  | sequence parts => groupSum parts
  | choice branches => groupSum branches
  | group _ body => 1 + body.groupCount
  | look _ _ body => body.groupCount
  | repetition body _ _ _ => body.groupCount
  | atomic body => body.groupCount
  | conditional condition whenTrue whenFalse =>
      condition.groupCount + whenTrue.groupCount + whenFalse.groupCount
  | _ => 0

def groupSum : List Expression → Nat
  | [] => 0
  | part :: rest => part.groupCount + groupSum rest

end

/-- The characters that are escaped when they stand for themselves. -/
def isSpecial (character : Char) : Bool := "\\.+*?()|[]\x7b\x7d^$#".toList.contains character

def quoted (character : Char) : List Char :=
  if isSpecial character then ['\\', character] else [character]

def enclose (condition : Bool) (start : String) (text : List Char) : List Char :=
  if condition then start.toList ++ text ++ [')'] else text

def decimal (count : Nat) : List Char := (toString count).toList

/-- The operator of a repetition. -/
def operatorText (least : Nat) (most : Option Nat) (greedy : Bool) : List Char :=
  let counts :=
    if least = 0 ∧ most = some 1 then ['?']
    else if least = 0 ∧ most = none then ['*']
    else if least = 1 ∧ most = none then ['+']
    else
      let second :=
        if most = some least then [] else ',' :: (most.map decimal).getD []
      '\x7b' :: decimal least ++ second ++ ['\x7d']
  counts ++ if greedy then [] else ['?']

def anchorText : Anchor → List Char
  | .textStart => ['^']
  | .textEnd => ['$']
  | .lineStart => "(?m:^)".toList
  | _ => "(?m:$)".toList

mutual

/-- The text of an expression in the plain grammar. The level tells how tightly the text around it
binds: 1 in a choice, 2 in a sequence, 3 under an operator. -/
def source (level : Nat) : Expression → List Char
  | any newline => if newline then "(?s:.)".toList else ['.']
  | literal character anyCase => enclose anyCase "(?i:" (quoted character)
  | anchor kind => anchorText kind
  | sequence parts => enclose (1 < level) "(?:" (sequenceSource parts)
  | choice branches => enclose (0 < level) "(?:" (choiceSource branches)
  | group _ body => '(' :: body.source 0 ++ [')']
  | repetition body count most greedy =>
      enclose (2 < level) "(?:" (body.source 3 ++ operatorText count most greedy)
  | plain source anyCase => enclose anyCase "(?i:" source
  | _ => []

def sequenceSource : List Expression → List Char
  | [] => []
  | part :: rest => part.source 2 ++ sequenceSource rest

def choiceSource : List Expression → List Char
  | [] => []
  | [branch] => branch.source 1
  | branch :: rest => branch.source 1 ++ '|' :: choiceSource rest

end

end Expression

end ApiContract.Pattern.Extended
