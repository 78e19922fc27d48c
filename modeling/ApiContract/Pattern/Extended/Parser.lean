import ApiContract.Pattern.Extended.Reader
import ApiContract.Text.Basic

/-
This file reads whole patterns of the extended grammar. Flags that a group sets without a colon stay
in force after the group.
-/

namespace ApiContract.Pattern.Extended

open Reader

/-- The number of groups that may lie inside one another, plus one. -/
def depthLimit : Nat := 64

/-- Whether an operator may follow an expression. -/
def isRepeatable : Expression → Bool
  | .look _ _ _ | .empty | .anchor _ => false
  | _ => true

def setFlag (flag : Char) (value : Bool) : Reader Unit := do
  let flags ← flags
  let changed ←
    match flag with
    | 'i' => pure { flags with anyCase := value }
    | 'm' => pure { flags with manyLines := value }
    | 's' => pure { flags with dotAll := value }
    | 'U' => pure { flags with swapGreed := value }
    | 'x' => pure { flags with spaced := value }
    | 'u' => if value then pure flags else refuse
    | _ => refuse
  modify fun state => { state with flags := changed }

/-- Reads flags up to a colon or a closing parenthesis, which is returned. The number bounds the
steps; `before` is the character before the next one, and missing at the start. -/
def readFlags : Nat → Bool → Option Char → Reader Char
  | 0, _, _ => refuse
  | fuel + 1, negative, before => do
      let length := (← rest).length
      skipGap
      let before := if (← rest).length = length then before else some ' '
      match ← rest with
      | [] => refuse
      | character :: after =>
          setRest after
          match character with
          | ')' => if before.isNone ∨ before = some '-' then refuse else return ')'
          | ':' => if before = some '-' then refuse else return ':'
          | '-' => if negative then refuse else readFlags fuel true (some '-')
          | flag =>
              setFlag flag (!negative)
              readFlags fuel negative (some flag)

def newGroup : Reader Nat := do
  modify fun state => { state with groups := state.groups + 1 }
  return (← get).groups

/-- Reads the name of a new group. -/
def readNewName (start close : String) : Reader Nat := do
  let index ← newGroup
  let name ← readName start close false
  modify fun state => { state with names := (name, index) :: state.names }
  return index

def sequenced (parts : List Expression) : Expression :=
  match parts with
  | [] => .empty
  | [part] => part
  | several => .sequence several.reverse

/-- The branches of a condition: the first alternative, and those after it. -/
def branchesOf (body : Expression) : Expression × Expression :=
  match body with
  | .choice [first, second] => (first, second)
  | .choice (first :: rest) => (first, .choice rest)
  | other => (other, .empty)

mutual

/-- Reads alternatives. -/
def readChoice : Nat → Nat → Reader Expression
  | 0, _ => refuse
  | fuel + 1, depth => do
      let first ← readSequence fuel depth []
      skipGap
      if (← rest).head? == some '|' then
        return .choice (first :: (← readBranches fuel depth))
      let state ← get
      if state.numbered ∧ !state.names.isEmpty then refuse
      return first

/-- Reads the alternatives that follow the first one. -/
def readBranches : Nat → Nat → Reader (List Expression)
  | 0, _ => refuse
  | fuel + 1, depth => do
      if ← take "|" then
        let branch ← readSequence fuel depth []
        skipGap
        return branch :: (← readBranches fuel depth)
      return []

/-- Reads parts as long as they take characters; the parts read so far stand in reverse. -/
def readSequence : Nat → Nat → List Expression → Reader Expression
  | 0, _, _ => refuse
  | fuel + 1, depth, parts => do
      let before := (← rest).length
      if before = 0 then return sequenced parts
      let part ← readPiece fuel depth
      if (← rest).length = before then return sequenced parts
      readSequence fuel depth (if part.isEmpty then parts else part :: parts)

/-- Reads one part and the operator that follows it. A brace that holds no counts stands for itself.
-/
def readPiece : Nat → Nat → Reader Expression
  | 0, _ => refuse
  | fuel + 1, depth => do
      let body ← readAtom fuel depth
      skipGap
      let counts? ←
        match ← rest with
        | '?' :: after => do
            setRest after
            pure (some (0, some 1))
        | '*' :: after => do
            setRest after
            pure (some (0, none))
        | '+' :: after => do
            setRest after
            pure (some (1, none))
        | '\x7b' :: _ => readCounts?
        | _ => pure none
      match counts? with
      | none => return body
      | some (least, most) =>
          if !isRepeatable body then refuse
          skipGap
          let lazily ← take "?"
          let greedy := lazily == (← flags).swapGreed
          let repeated := Expression.repetition body least most greedy
          return if ← take "+" then .atomic repeated else repeated

/-- Reads one part without its operator. -/
def readAtom : Nat → Nat → Reader Expression
  | 0, _ => refuse
  | fuel + 1, depth => do
      skipGap
      let flags ← flags
      match ← rest with
      | [] => return .empty
      | character :: after =>
          match character with
          | '.' =>
              setRest after
              return .any flags.dotAll
          | '^' =>
              setRest after
              return .anchor (if flags.manyLines then .lineStart else .textStart)
          | '$' =>
              setRest after
              return .anchor (if flags.manyLines then .lineEnd else .textEnd)
          | '(' =>
              setRest after
              if depthLimit ≤ depth + 1 then refuse
              readGroup fuel (depth + 1)
          | '\\' =>
              setRest after
              readEscape false
          | '[' => readClass
          | '+' | '*' | '?' | '|' | ')' => return .empty
          | _ =>
              setRest after
              return .literal character flags.anyCase

/-- Reads a group after its opening parenthesis. -/
def readGroup : Nat → Nat → Reader Expression
  | 0, _ => refuse
  | fuel + 1, depth => do
      skipGap
      if ← take "?=" then return .look false true (← readInside fuel depth)
      if ← take "?!" then return .look false false (← readInside fuel depth)
      if ← take "?<=" then return .look true true (← readInside fuel depth)
      if ← take "?<!" then return .look true false (← readInside fuel depth)
      if "?<".toList.isPrefixOf (← rest) then
        expect "?"
        let index ← readNewName "<" ">"
        return .group index (← readInside fuel depth)
      if "?'".toList.isPrefixOf (← rest) then
        expect "?"
        let index ← readNewName "'" "'"
        return .group index (← readInside fuel depth)
      if "?P<".toList.isPrefixOf (← rest) then
        expect "?P"
        let index ← readNewName "<" ">"
        return .group index (← readInside fuel depth)
      if ← take "?P=" then return .reference (← readNamedReference "" ")" false)
      if ← take "?>" then return .atomic (← readInside fuel depth)
      if ← take "?(" then readConditional fuel depth
      else if ← take "?" then
        let before ← flags
        if (← readFlags ((← rest).length + 1) false none) == ')' then return .empty
        let body ← readChoice fuel depth
        expect ")"
        modify fun state => { state with flags := before }
        return body
      else
        let index ← newGroup
        return .group index (← readInside fuel depth)

/-- Reads alternatives and the closing parenthesis. -/
def readInside : Nat → Nat → Reader Expression
  | 0, _ => refuse
  | fuel + 1, depth => do
      let body ← readChoice fuel depth
      skipGap
      expect ")"
      return body

/-- Reads a condition after its second parenthesis: a group that has to be set, or an expression;
and the branches that it chooses from. -/
def readConditional : Nat → Nat → Reader Expression
  | 0, _ => refuse
  | fuel + 1, depth => do
      let condition ←
        match ← rest with
        | [] => refuse
        | character :: _ =>
            if character.isDigit then do pure (.reference (← readNumberedReference))
            else if character == '\'' then do
              pure (.reference (← readNamedReference "'" "'" true))
            else if character == '<' then do
              pure (.reference (← readNamedReference "<" ">" true))
            else readChoice fuel depth
      skipGap
      expect ")"
      let condition : Expression :=
        match condition with
        | .reference index => .isSet index
        | other => other
      let before := (← rest).length
      let body ← readChoice fuel depth
      if (← rest).length = before then
        skipGap
        expect ")"
        match condition with
        | .isSet _ => return condition
        | _ => refuse
      else
        skipGap
        expect ")"
        let (whenTrue, whenFalse) := branchesOf body
        return .conditional condition whenTrue whenFalse

end

/-- A pattern of the extended grammar with the groups to which it refers. -/
structure Parsed where
  expression : Expression
  references : List Nat

/-- Reads a whole text. -/
def parse (text : List Char) : Option Parsed := do
  let size := Text.byteLength text
  let start : State := ⟨text, ⟨false, false, false, false, false⟩, 0, [], [], false, size⟩
  let (expression, state) ← (readChoice (8 * text.length + 16) 0).run start
  if state.rest.isEmpty then some ⟨expression, state.references⟩ else none

end ApiContract.Pattern.Extended
