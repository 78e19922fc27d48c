import ApiContract.Pattern.Plain.ClassReader

/-
This file reads whole patterns of the plain grammar. Nodes may not lie inside one another too
deeply.
-/

namespace ApiContract.Pattern.Plain

open Reader

def isNameCharacter (first : Bool) (character : Char) : Bool :=
  if first then character == '_' || Unicode.isAlphabetic character
  else "_.[]".toList.contains character || Unicode.isAlphanumeric character

/-- Reads the name of a group up to its closing mark. Every name is used once. -/
def readGroupName : Reader Unit := do
  let state ← get
  match splitAtMark ['>'] state.rest with
  | some (first :: others, rest) =>
      let name := first :: others
      if !isNameCharacter true first || !others.all (isNameCharacter false) then refuse
      if state.names.contains name then refuse
      set { state with
        rest := rest
        position := state.position + name.length + 1
        names := name :: state.names }
  | _ => refuse

/-- Reads flags up to a colon or a closing parenthesis, which is returned too. No flag and no minus
sign stands twice, and no minus sign last. -/
def readFlags : Nat → List Char → Bool → Reader (FlagChange × Char)
  | 0, _, _ => refuse
  | fuel + 1, seen, negative => do
      let character ← next
      if character == ':' ∨ character == ')' then
        if seen.head? == some '-' then refuse
        bump
        return (⟨[]⟩, character)
      if seen.contains character ∨ !"imsUuRx-".toList.contains character then refuse
      bump
      if character == '-' then readFlags fuel (character :: seen) true
      else
        let (change, close) ← readFlags fuel (character :: seen) negative
        return (⟨(character, !negative) :: change.flags⟩, close)

/-- How a group starts. -/
inductive GroupStart where
  | flags (change : FlagChange)
  | flagged (change : FlagChange)
  | capturing (index : Nat)

/-- The next free index of a group. -/
def newGroup : Reader Nat := do
  modify fun state => { state with groups := state.groups + 1 }
  return (← get).groups

/-- Reads the start of a group from its parenthesis on. -/
def readGroupStart : Reader GroupStart := do
  bumpAndSkip
  for mark in ["?=", "?!", "?<=", "?<!"] do
    if ← take mark then throw .beyond
  for mark in ["?P<", "?<"] do
    if ← take mark then
      let index ← newGroup
      readGroupName
      return .capturing index
  if ← take "?" then
    let (change, close) ← readFlags (← remaining) [] false
    if close == ':' then return .flagged change
    if change.flags.isEmpty then refuse
    return .flags change
  return .capturing (← newGroup)

def isRepeatable : Node → Bool
  | .empty | .flags _ => false
  | _ => true

def skipLazy : Reader Bool := do
  if (← peek) == some '?' then
    bump
    return true
  return false

/-- Reads the counts of a repetition from its brace on. -/
def readCounts : Reader (Nat × Option Nat) := do
  bumpAndSkip
  let _ ← next
  let first ← readCount
  let counts ←
    if (← next) == ',' then do
      bumpAndSkip
      match first with
      | none => refuse
      | some least =>
          if (← next) == '\x7d' then pure (least, none)
          else
            match ← readCount with
            | some most => pure (least, some most)
            | none => refuse
    else
      match first with
      | some count => pure (count, some count)
      | none => refuse
  if (← next) != '\x7d' then refuse
  bumpAndSkip
  return counts

/-- Reads an operator that repeats the node before it. -/
def readRepetition (parts : List Node) : Reader (List Node) := do
  match parts with
  | [] => refuse
  | body :: before =>
      if !isRepeatable body then refuse
      let (least, most) ←
        match ← next with
        | '?' => do
            bump
            pure (0, some 1)
        | '*' => do
            bump
            pure (0, none)
        | '+' => do
            bump
            pure (1, none)
        | _ => readCounts
      let lazily ← skipLazy
      if most.any (· < least) then refuse
      return .repetition body least most (!lazily) :: before

/-- Reads one node that is neither a group nor a class. -/
def readPrimitive : Reader Node := do
  match ← next with
  | '\\' =>
      match ← readEscape false with
      | .literal character => return .literal character
      | .anchor kind => return .anchor kind
      | .letter negated letter => return .letter negated letter
      | .property negated query => return .property negated query
  | character =>
      bump
      match character with
      | '.' => return .dot
      | '^' => return .anchor .lineStart
      | '$' => return .anchor .lineEnd
      | _ => return .literal character

def concatenated (parts : List Node) : Node :=
  match parts with
  | [] => .empty
  | [part] => part
  | several => .concatenation several.reverse

def alternated (branches : List Node) (last : Node) : Node :=
  match branches with
  | [] => last
  | several => .alternation (last :: several).reverse

def setSpaced (change : FlagChange) : Reader Unit :=
  match change.find? 'x' with
  | some spaced => modify fun state => { state with spaced := spaced }
  | none => return ()

/-- Reads alternatives up to the end or, inside of a group, to a closing parenthesis. The first
number bounds the steps; the branches and parts read so far stand in reverse. -/
def readNodes (inGroup : Bool) : Nat → List Node → List Node → Reader Node
  | 0, _, _ => refuse
  | fuel + 1, branches, parts => do
      skipSpace
      match ← peek with
      | none => if inGroup then refuse else return alternated branches (concatenated parts)
      | some ')' => if inGroup then return alternated branches (concatenated parts) else refuse
      | some '|' =>
          bump
          readNodes inGroup fuel (concatenated parts :: branches) []
      | some '(' =>
          match ← readGroupStart with
          | .flags change =>
              setSpaced change
              readNodes inGroup fuel branches (.flags change :: parts)
          | .flagged change =>
              let spaced := (← get).spaced
              setSpaced change
              let body ← readNodes true fuel [] []
              modify fun state => { state with spaced := spaced }
              bump
              readNodes inGroup fuel branches (.flagged change body :: parts)
          | .capturing index =>
              let spaced := (← get).spaced
              let body ← readNodes true fuel [] []
              modify fun state => { state with spaced := spaced }
              bump
              readNodes inGroup fuel branches (.group index body :: parts)
      | some '[' => readNodes inGroup fuel branches ((← readClass) :: parts)
      | some character =>
          if "?*+\x7b".toList.contains character then
            readNodes inGroup fuel branches (← readRepetition parts)
          else readNodes inGroup fuel branches ((← readPrimitive) :: parts)

/-- A pattern of the plain grammar, and what was seen in its text. -/
def parse (text : List Char) : Except Refusal (Node × State) := do
  let (node, state) ←
    (readNodes false (text.length + 1) [] []).run ⟨text, 0, false, 0, [], [], false⟩
  if node.height ≤ heightLimit then return (node, state) else throw .invalid

end ApiContract.Pattern.Plain
