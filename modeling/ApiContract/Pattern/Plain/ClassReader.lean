import ApiContract.Pattern.Plain.Reader

/-
This file reads classes in brackets: single characters, ranges, escapes, named sets, nested classes,
and the operators for intersection, difference and symmetric difference.
-/

namespace ApiContract.Pattern.Plain

open Reader

/-- The sets that a class can name between `[:` and `:]`. -/
def asciiSet? (name : String) : Option CodeSet :=
  let ofPairs := fun pairs : List (Char × Char) =>
    some (CodeSet.ofRanges (pairs.map fun pair => (pair.1.toNat, pair.2.toNat)))
  match name with
  | "alnum" => ofPairs [('0', '9'), ('A', 'Z'), ('a', 'z')]
  | "alpha" => ofPairs [('A', 'Z'), ('a', 'z')]
  | "ascii" => ofPairs [('\x00', '\x7f')]
  | "blank" => ofPairs [('\t', '\t'), (' ', ' ')]
  | "cntrl" => ofPairs [('\x00', '\x1f'), ('\x7f', '\x7f')]
  | "digit" => ofPairs [('0', '9')]
  | "graph" => ofPairs [('!', '~')]
  | "lower" => ofPairs [('a', 'z')]
  | "print" => ofPairs [(' ', '~')]
  | "punct" => ofPairs [('!', '/'), (':', '@'), ('[', '\x60'), ('\x7b', '~')]
  | "space" => ofPairs [('\t', '\r'), (' ', ' ')]
  | "upper" => ofPairs [('A', 'Z')]
  | "word" => ofPairs [('0', '9'), ('A', 'Z'), ('_', '_'), ('a', 'z')]
  | "xdigit" => ofPairs [('0', '9'), ('A', 'F'), ('a', 'f')]
  | _ => none

/-- A named set such as `[:alpha:]` and the number of its characters, from its bracket on. -/
def namedSet? (text : List Char) : Option (ClassItem × Nat) :=
  match text with
  | '[' :: ':' :: rest =>
      let negated := rest.head? == some '^'
      let rest := if negated then rest.drop 1 else rest
      let name := rest.takeWhile (· != ':')
      if [':', ']'].isPrefixOf (rest.drop name.length) then
        (asciiSet? (String.ofList name)).map fun set =>
          (.ascii negated set, name.length + (if negated then 5 else 4))
      else none
  | _ => none

/-- Reads a named set if one stands next. -/
def readNamedSet : Reader (Option ClassItem) := do
  let state ← get
  match namedSet? state.rest with
  | some (item, count) =>
      set { state with rest := state.rest.drop count, position := state.position + count }
      return some item
  | none => return none

/-- Reads hyphens at the start of a class, which stand for themselves. -/
def readHyphens : Nat → Reader (List ClassItem)
  | 0 => return []
  | fuel + 1 => do
      if (← next) != '-' then return []
      bumpAndSkip
      return .single '-' :: (← readHyphens fuel)

/-- Reads the start of a class from its bracket on. Hyphens, or one closing bracket, stand for
themselves there. -/
def readClassStart : Reader (Bool × List ClassItem) := do
  bumpAndSkip
  let negated := (← next) == '^'
  if negated then bumpAndSkip
  let hyphens ← readHyphens (← remaining)
  if hyphens.isEmpty ∧ (← next) == ']' then
    bumpAndSkip
    let _ ← next
    return (negated, [.single ']'])
  return (negated, hyphens)

/-- Reads one character or escape of a class. -/
def readClassItem : Reader Item := do
  match ← next with
  | '\\' => readEscape true
  | character =>
      bump
      return .literal character

def itemOf (item : Item) : Reader ClassItem :=
  match item with
  | .literal character => return .single character
  | .letter negated letter => return .letter negated letter
  | .property negated query => return .property negated query
  | .anchor _ => refuse

/-- Reads an item or a range. A hyphen before a closing bracket or a second hyphen does not start
the end of a range. -/
def readClassRange : Reader ClassItem := do
  let first ← readClassItem
  skipSpace
  let mark ← next
  let second ← peekSecond
  if mark != '-' ∨ second == some ']' ∨ second == some '-' then itemOf first
  else
    bumpAndSkip
    let last ← readClassItem
    match first, last with
    | .literal low, .literal high =>
        if low ≤ high then return .range low high else refuse
    | _, _ => refuse

/-- The operator of a doubled mark. -/
def operator? : List Char → Option SetOperator
  | '&' :: '&' :: _ => some .intersection
  | '-' :: '-' :: _ => some .difference
  | '~' :: '~' :: _ => some .symmetricDifference
  | _ => none

/-- The node of what follows the last operator, joined to what stands before it. -/
def joinClass (left : Option (SetOperator × ClassNode)) (items : List ClassItem) : ClassNode :=
  let node : ClassNode :=
    match items with
    | [item] => .item item
    | several => .item (.union several.reverse)
  match left with
  | some (operator, before) => .operation operator before node
  | none => node

/-- Reads the items of a class up to its closing bracket; the last one read stands first. The first
number bounds the steps. -/
def readClassItems :
    Nat → Option (SetOperator × ClassNode) → List ClassItem → Reader ClassNode
  | 0, _, _ => refuse
  | fuel + 1, left, items => do
      skipSpace
      match ← next with
      | ']' =>
          bump
          return joinClass left items
      | '[' =>
          match ← readNamedSet with
          | some item => readClassItems fuel left (item :: items)
          | none =>
              let (negated, start) ← readClassStart
              let inside ← readClassItems fuel none start.reverse
              readClassItems fuel left (.nested negated inside :: items)
      | _ =>
          match operator? (← get).rest with
          | some operator =>
              bump
              bump
              readClassItems fuel (some (operator, joinClass left items)) []
          | none =>
              let item ← readClassRange
              readClassItems fuel left (item :: items)

/-- Reads a class from its bracket on. -/
def readClass : Reader Node := do
  let fuel ← remaining
  let (negated, start) ← readClassStart
  return .bracketed negated (← readClassItems fuel none start.reverse)

end ApiContract.Pattern.Plain
