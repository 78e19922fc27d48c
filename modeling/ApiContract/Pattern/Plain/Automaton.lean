import ApiContract.Pattern.Plain.Parser
import ApiContract.Pattern.Plain.Weight

/-
This file turns regular expressions into automata and runs them. Of several ways to match, the one
that a backtracking search would find first wins, but no state is entered twice at one place.
-/

namespace ApiContract.Pattern.Plain

/-- A state of an automaton. The states after a choice stand in the order of preference. -/
inductive Step where
  | character (set : CodeSet) (next : Nat)
  | choice (nexts : List Nat)
  | anchor (kind : Anchor) (next : Nat)
  | mark (slot : Nat) (next : Nat)
  | accept

/-- The states of an automaton and the one in which it starts. -/
structure Automaton where
  steps : Array Step
  start : Nat

/-- Adds a state and returns its index. -/
def addStep (steps : Array Step) (step : Step) : Nat × Array Step := (steps.size, steps.push step)

/-- A choice between repeating a body and going on. -/
def loopStep (greedy : Bool) (body next : Nat) : Step :=
  .choice (if greedy then [body, next] else [next, body])

/-- Puts a part several times before a state. -/
def copies (part : Nat → Array Step → Nat × Array Step) :
    Nat → Nat → Array Step → Nat × Array Step
  | 0, next, steps => (next, steps)
  | count + 1, next, steps =>
      let (start, steps) := part next steps
      copies part count start steps

/-- Puts a part that may be left out before a state that follows, several times; leaving it out once
leaves out all that are further on. -/
def optionals (part : Nat → Array Step → Nat × Array Step) (greedy : Bool) (stop : Nat) :
    Nat → Nat → Array Step → Nat × Array Step
  | 0, next, steps => (next, steps)
  | count + 1, next, steps =>
      let (start, steps) := part next steps
      let (choice, steps) := addStep steps (loopStep greedy start stop)
      optionals part greedy stop count choice steps

/-- Puts a part that is taken at least once before a state. -/
def onceOrMore (part : Nat → Array Step → Nat × Array Step) (greedy : Bool) (next : Nat)
    (steps : Array Step) : Nat × Array Step :=
  let (loop, steps) := addStep steps (.choice [])
  let (start, steps) := part loop steps
  (start, steps.setIfInBounds loop (loopStep greedy start next))

mutual

/-- Whether a regular expression matches the empty text. -/
def Regular.isOptional : Regular → Bool
  | .empty => true
  | .set _ => false
  | .anchor _ => true
  | .sequence parts => allOptional parts
  | .choice branches => anyOptional branches
  | .repetition body least _ _ => least == 0 || body.isOptional
  | .group _ body => body.isOptional

def allOptional : List Regular → Bool
  | [] => true
  | part :: rest => part.isOptional && allOptional rest

def anyOptional : List Regular → Bool
  | [] => false
  | branch :: rest => branch.isOptional || anyOptional rest

end

mutual

/-- Adds the states of a regular expression before a state that follows, and returns the first one.
A body that may be empty and is repeated without a bound becomes one that is taken once or more, or
not at all. -/
def Regular.build : Regular → Nat → Array Step → Nat × Array Step
  | .empty, next, steps => (next, steps)
  | .set set, next, steps => addStep steps (.character set next)
  | .anchor kind, next, steps => addStep steps (.anchor kind next)
  | .sequence parts, next, steps => buildSequence parts next steps
  | .choice branches, next, steps =>
      let (starts, steps) := buildBranches branches next steps
      addStep steps (.choice starts)
  | .repetition body least most greedy, next, steps =>
      let part := fun next steps => body.build next steps
      match most with
      | some most =>
          let (start, steps) := optionals part greedy next (most - least) next steps
          copies part least start steps
      | none =>
          match least with
          | 0 =>
              if body.isOptional then
                let (start, steps) := onceOrMore part greedy next steps
                addStep steps (loopStep greedy start next)
              else
                let (loop, steps) := addStep steps (.choice [])
                let (start, steps) := part loop steps
                (loop, steps.setIfInBounds loop (loopStep greedy start next))
          | least + 1 =>
              let (start, steps) := onceOrMore part greedy next steps
              copies part least start steps
  | .group index body, next, steps =>
      let (close, steps) := addStep steps (.mark (2 * index + 1) next)
      let (start, steps) := body.build close steps
      addStep steps (.mark (2 * index) start)

def buildSequence : List Regular → Nat → Array Step → Nat × Array Step
  | [], next, steps => (next, steps)
  | part :: rest, next, steps =>
      let (middle, steps) := buildSequence rest next steps
      part.build middle steps

def buildBranches : List Regular → Nat → Array Step → List Nat × Array Step
  | [], _, steps => ([], steps)
  | branch :: rest, next, steps =>
      let (start, steps) := branch.build next steps
      let (starts, steps) := buildBranches rest next steps
      (start :: starts, steps)

end

/-- The automaton of a regular expression. -/
def Regular.automaton (regular : Regular) : Automaton :=
  let (start, steps) := regular.build 0 #[.accept]
  ⟨steps, start⟩

/-- The automaton of a text of the plain grammar; `none` if the text is no pattern, names a property
that does not exist, or would take too much memory. -/
def compile? (text : List Char) : Option Automaton := do
  let (node, _) ← (parse text).toOption
  let (regular, _) ← node.regular? Flags.none
  if regular.totalWeight ≤ weightLimit then some regular.automaton else none

/-- The places of the borders of groups, by twice the index of the group; the end has an odd one. -/
abbrev Slots := List (Nat × Nat)

/-- A state that is reached, and the borders on the way to it. -/
structure Thread where
  state : Nat
  slots : Slots

/-- The threads at a place in the order of preference, and for each state the last place at which it
was entered, plus one. -/
structure Front where
  threads : Array Thread
  entered : Array Nat

/-- Follows the steps that take no character. The number bounds the steps; a state that was entered
at this place is not entered again. -/
def enter (automaton : Automaton) (text : Array Char) (position : Nat) :
    Nat → List Thread → Front → Front
  | 0, _, front => front
  | _, [], front => front
  | fuel + 1, thread :: rest, front =>
      if front.entered[thread.state]? == some (position + 1) then
        enter automaton text position fuel rest front
      else
        let entered := front.entered.setIfInBounds thread.state (position + 1)
        match automaton.steps[thread.state]? with
        | some (.choice nexts) =>
            enter automaton text position fuel
              (nexts.map (⟨·, thread.slots⟩) ++ rest) ⟨front.threads, entered⟩
        | some (.anchor kind next) =>
            if kind.holds text position then
              enter automaton text position fuel (⟨next, thread.slots⟩ :: rest)
                ⟨front.threads, entered⟩
            else enter automaton text position fuel rest ⟨front.threads, entered⟩
        | some (.mark slot next) =>
            let slots := (slot, position) :: thread.slots.filter (·.1 ≠ slot)
            enter automaton text position fuel (⟨next, slots⟩ :: rest) ⟨front.threads, entered⟩
        | _ => enter automaton text position fuel rest ⟨front.threads.push thread, entered⟩

/-- A bound on the steps at one place: every state is entered once, and every edge is tried. -/
def Automaton.edges (automaton : Automaton) : Nat :=
  automaton.steps.foldl
    (fun sum step =>
      sum + 2 +
        match step with
        | .choice nexts => nexts.length
        | _ => 0) 4

/-- The threads after the next character, and the borders of the match that ends here, if the
threads find one. Threads that come after a match are dropped. -/
def advance (automaton : Automaton) (text : Array Char) (edges position : Nat) :
    List Thread → Front → Front × Option Slots
  | [], front => (front, none)
  | thread :: rest, front =>
      match automaton.steps[thread.state]? with
      | some .accept => (front, some thread.slots)
      | some (.character set next) =>
          if text[position]?.any set.accepts then
            advance automaton text edges position rest
              (enter automaton text (position + 1) edges [⟨next, thread.slots⟩] front)
          else advance automaton text edges position rest front
      | _ => advance automaton text edges position rest front

/-- Runs the threads up to the end of the text, and returns the end and the borders of the last
match found. The first number counts the characters that are left, plus one. -/
def run (automaton : Automaton) (text : Array Char) (edges : Nat) :
    Nat → Nat → Array Thread → Array Nat → Option (Nat × Slots) → Option (Nat × Slots)
  | 0, _, _, _, found => found
  | fuel + 1, position, threads, entered, found =>
      if threads.isEmpty then found
      else
        let (front, slots) := advance automaton text edges position threads.toList ⟨#[], entered⟩
        let found := (slots.map (position, ·)) <|> found
        run automaton text edges fuel (position + 1) front.threads front.entered found

/-- The preferred match that starts at a place: its end and the borders of its groups. -/
def Automaton.matchAt? (automaton : Automaton) (text : Array Char) (position : Nat) :
    Option (Nat × Slots) :=
  let edges := automaton.edges
  let entered := Array.replicate automaton.steps.size 0
  let front := enter automaton text position edges [⟨automaton.start, []⟩] ⟨#[], entered⟩
  run automaton text edges (text.size + 1 - position) position front.threads front.entered none

/-- Runs threads that may start at every place, until one of them accepts. -/
def searchFrom (automaton : Automaton) (text : Array Char) (edges : Nat) :
    Nat → Nat → Front → Bool
  | 0, _, _ => false
  | fuel + 1, position, front =>
      let front := enter automaton text position edges [⟨automaton.start, []⟩] front
      let (next, slots) := advance automaton text edges position front.threads.toList
        ⟨#[], front.entered⟩
      slots.isSome || searchFrom automaton text edges fuel (position + 1) next

/-- Whether an automaton matches somewhere in a text. -/
def Automaton.isMatch (automaton : Automaton) (text : Array Char) : Bool :=
  searchFrom automaton text automaton.edges (text.size + 1) 0
    ⟨#[], Array.replicate automaton.steps.size 0⟩

end ApiContract.Pattern.Plain
