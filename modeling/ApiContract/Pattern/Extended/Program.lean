import ApiContract.Pattern.Extended.Parser
import ApiContract.Pattern.Plain.Automaton

/-
This file turns extended patterns into programs for a backtracking search. Parts that the plain
grammar can express are left to automata where no search has to return into them.
-/

namespace ApiContract.Pattern.Extended

open Plain (Automaton)

/-- An instruction of a search. Slots hold places and counts. -/
inductive Instruction where
  | text (characters : List Char)
  | any (newline : Bool)
  | anchor (kind : Anchor)
  | split (first second : Nat)
  | jump (target : Nat)
  | save (slot : Nat)
  | clear (slot : Nat)
  | restore (slot : Nat)
  | repeatUpTo (least : Nat) (most : Nat) (next slot : Nat) (greedy : Bool)
  | repeatNonempty (least : Nat) (next slot check : Nat) (greedy : Bool)
  | back (count : Nat)
  | failAround
  | reference (index : Nat)
  | isSet (index : Nat)
  | openAtomic
  | closeAtomic
  | automaton (automaton : Automaton) (firstGroup groups : Nat)
  | resume
  | finish

/-- The instructions so far and the number of the slots. -/
structure Builder where
  code : Array Instruction
  slots : Nat

abbrev Build := StateT Builder Option

namespace Build

def refuse {α : Type} : Build α := fun _ => none

/-- The index of the next instruction. -/
def here : Build Nat := do return (← get).code.size

def emit (instruction : Instruction) : Build Unit :=
  modify fun builder => { builder with code := builder.code.push instruction }

def patch (index : Nat) (instruction : Instruction) : Build Unit :=
  modify fun builder => { builder with code := builder.code.setIfInBounds index instruction }

def newSlot : Build Nat := do
  let slot := (← get).slots
  modify fun builder => { builder with slots := slot + 1 }
  return slot

/-- Emits an instruction that depends on the place after a part, and the part. -/
def around (part : Build Unit) (instruction : Nat → Instruction) : Build Unit := do
  let index ← here
  emit (.jump 0)
  part
  patch index (instruction (← here))

end Build

open Build

/-- The characters of an expression that is a plain text. -/
def literals? : List Expression → Option (List Char)
  | [] => some []
  | .literal character false :: rest => (literals? rest).map (character :: ·)
  | .sequence parts :: rest => do return (← inside parts) ++ (← literals? rest)
  | _ => none
where
  inside : List Expression → Option (List Char)
    | [] => some []
    | .literal character false :: rest => (inside rest).map (character :: ·)
    | _ => none

/-- Emits the automaton of some expressions in sequence, or their text. -/
def emitPlain (parts : List Expression) (firstGroup : Nat) : Build Unit :=
  if parts.isEmpty then return ()
  else
    match literals? parts with
    | some characters => emit (.text characters)
    | none =>
        match Plain.compile? (parts.flatMap (·.source 1)) with
        | some automaton =>
            emit (.automaton automaton firstGroup (Expression.groupSum parts))
        | none => refuse

/-- A choice between a part and what follows it. -/
def splitStep (greedy : Bool) (part next : Nat) : Instruction :=
  if greedy then .split part next else .split next part

/-- Emits a loop of a part; a part that may be empty is not taken twice at one place. -/
def emitRepetition (part : Build Unit) (mayBeEmpty : Bool) (least : Nat) (most : Option Nat)
    (greedy : Bool) : Build Unit := do
  let start ← here
  let loop := do
    part
    emit (.jump start)
  match least, most, mayBeEmpty with
  | 0, some 1, _ => around part fun next => splitStep greedy (start + 1) next
  | least, none, true =>
      let slot ← newSlot
      let check ← newSlot
      emit (.clear slot)
      let loop := do
        part
        emit (.jump (start + 1))
      around loop fun next => .repeatNonempty least next slot check greedy
  | 0, none, false => around loop fun next => splitStep greedy (start + 1) next
  | 1, none, false =>
      part
      emit (splitStep greedy start ((← here) + 1))
  | least, most, _ =>
      let slot ← newSlot
      emit (.clear slot)
      let loop := do
        part
        emit (.jump (start + 1))
      around loop fun next =>
        .repeatUpTo least (most.getD greatestCount) next slot greedy

/-- Emits a look at the text behind or ahead. A look behind needs a fixed length. -/
def emitLook (behind positive : Bool) (body : Expression) (part : Build Unit) : Build Unit := do
  let inside := do
    if behind then
      if !body.isFixed then refuse
      emit (.back body.least)
    part
  if positive then
    let slot ← newSlot
    emit (.save slot)
    inside
    emit (.restore slot)
  else
    let start ← here
    let inside := do
      inside
      emit .failAround
    around inside fun next => .split (start + 1) next

/-- Emits alternatives: each but the last may be left for the next one. -/
def emitBranches : List (Build Unit) → Build Unit
  | [] => return ()
  | [branch] => branch
  | branch :: rest => do
      let start ← here
      let alternative := do
        branch
        emit (.jump 0)
      around alternative fun next => .split (start + 1) next
      let exit := (← here) - 1
      emitBranches rest
      patch exit (.jump (← here))

def emitConditional (condition whenTrue whenFalse : Build Unit) : Build Unit := do
  emit .openAtomic
  let start ← here
  let alternative := do
    condition
    emit .closeAtomic
    whenTrue
    emit (.jump 0)
  around alternative fun next => .split (start + 1) next
  let exit := (← here) - 1
  whenFalse
  patch exit (.jump (← here))

/-- The first parts that are neither hard nor of different lengths. -/
def plainStart (references : List Nat) (parts : List Expression) : List Expression :=
  parts.takeWhile fun part => part.isFixed && !part.isHard references

/-- The last parts that an automaton may take. If a search may return into them, they have a fixed
length. -/
def plainEnd (references : List Nat) (hard : Bool) (parts : List Expression) : List Expression :=
  (parts.reverse.takeWhile fun part =>
    (!hard || part.isFixed) && !part.isHard references).reverse

/-- Whether alternatives behind a place are looked at one by one. -/
def isSplitBehind (behind : Bool) : Expression → Bool
  | .choice branches => behind && !(Expression.choice branches).isFixed
  | _ => false

/-- Emits an expression; `hard` tells whether a search may return into it. The first number bounds
the depth, and `firstGroup` is the index of the first group in it. -/
def emitExpression (references : List Nat) : Nat → Bool → Nat → Expression → Build Unit
  | 0, _, _, _ => refuse
  | fuel + 1, hard, firstGroup, expression =>
      let emitAll := fun (hard : Bool) (firstGroup : Nat) (expressions : List Expression) =>
        withGroups firstGroup expressions fun firstGroup expression =>
          emitExpression references fuel hard firstGroup expression
      if !hard ∧ !expression.isHard references then emitPlain [expression] firstGroup
      else
        match expression with
        | .empty => return ()
        | .literal character anyCase =>
            if anyCase then emitPlain [expression] firstGroup else emit (.text [character])
        | .any newline => emit (.any newline)
        | .sequence parts => do
            let start := plainStart references parts
            let others := parts.drop start.length
            let stop := plainEnd references hard others
            let middle := others.take (others.length - stop.length)
            emitPlain start firstGroup
            let middleGroup := firstGroup + Expression.groupSum start
            for part in emitAll true middleGroup middle do part
            emitPlain stop (middleGroup + Expression.groupSum middle)
        | .choice branches => emitBranches (emitAll hard firstGroup branches)
        | .group index body => do
            emit (.save (2 * index))
            emitExpression references fuel hard (firstGroup + 1) body
            emit (.save (2 * index + 1))
        | .repetition body least most greedy =>
            let isOnce : Bool := least = 0 ∧ most = some 1
            let inner := hard || (!isOnce && expression.isHard references)
            emitRepetition (emitExpression references fuel inner firstGroup body)
              (body.least == 0) least most greedy
        | .look behind positive body =>
            if isSplitBehind behind body then
              let branches :=
                match body with
                | .choice branches => branches
                | other => [other]
              let looks :=
                (branches.zip (emitAll false firstGroup branches)).map fun (branch, part) =>
                  emitLook true positive branch part
              if positive then emitBranches looks else looks.forM id
            else
              emitLook behind positive body
                (emitExpression references fuel false firstGroup body)
        | .reference index => emit (.reference index)
        | .isSet index => emit (.isSet index)
        | .atomic body => do
            emit .openAtomic
            emitExpression references fuel false firstGroup body
            emit .closeAtomic
        | .plain _ _ => emitPlain [expression] firstGroup
        | .anchor kind => emit (.anchor kind)
        | .keep => emit (.save 0)
        | .resume => emit .resume
        | .conditional condition whenTrue whenFalse =>
            match emitAll hard firstGroup [condition, whenTrue, whenFalse] with
            | [condition, whenTrue, whenFalse] => emitConditional condition whenTrue whenFalse
            | _ => refuse
where
  /-- Applies a function to expressions and the indices of their first groups. -/
  withGroups (firstGroup : Nat) (expressions : List Expression)
      (part : Nat → Expression → Build Unit) : List (Build Unit) :=
    match expressions with
    | [] => []
    | expression :: rest =>
        part firstGroup expression ::
          withGroups (firstGroup + expression.groupCount) rest part

mutual

/-- The greatest number of expressions that lie inside one another. -/
def Expression.height : Expression → Nat
  | .sequence parts => 1 + heights parts
  | .choice branches => 1 + heights branches
  | .group _ body => 1 + body.height
  | .look _ _ body => 1 + body.height
  | .repetition body _ _ _ => 1 + body.height
  | .atomic body => 1 + body.height
  | .conditional condition whenTrue whenFalse =>
      1 + max condition.height (max whenTrue.height whenFalse.height)
  | _ => 1

def heights : List Expression → Nat
  | [] => 0
  | part :: rest => max part.height (heights rest)

end

/-- A program with the number of its slots. -/
structure Program where
  code : Array Instruction
  slots : Nat

/-- The program that looks for an expression at every place. The whole match is the group zero. -/
def Parsed.program? (parsed : Parsed) : Option Program := do
  let whole := Expression.group 0 parsed.expression
  let search := Expression.repetition (.any true) 0 none false
  let build := do
    emitExpression parsed.references 2 true 0 search
    emitExpression parsed.references (whole.height + 1) true 0 whole
    emit .finish
  let (_, builder) ← build.run ⟨#[], 2 * whole.groupCount⟩
  return ⟨builder.code, builder.slots⟩

/-- Whether a pattern needs a backtracking search. -/
def Parsed.isHard (parsed : Parsed) : Bool := parsed.expression.isHard parsed.references

end ApiContract.Pattern.Extended
