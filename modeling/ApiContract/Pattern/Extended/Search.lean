import ApiContract.Pattern.Extended.Program

/-
This file runs programs on texts. A search that fails returns to the last choice with the slots as
they were there. It gives up after too many returns, or when too many choices are open.
-/

namespace ApiContract.Pattern.Extended

/-- Why a search gives up. -/
inductive SearchFault where
  | returns
  | choices
  deriving DecidableEq, Repr

def SearchFault.message : SearchFault → String
  | returns => "Max limit for backtracking count exceeded"
  | choices => "Max stack size exceeded for backtracking"

def returnLimit : Nat := 1000000

def choiceLimit : Nat := 1000000

/-- The slots, and the numbers of choices that were open where atomic parts begin. -/
structure Memory where
  slots : Array (Option Nat)
  atomics : List Nat

def Memory.get (memory : Memory) (slot : Nat) : Option Nat := (memory.slots[slot]?).join

def Memory.set (memory : Memory) (slot : Nat) (value : Nat) : Memory :=
  { memory with slots := memory.slots.setIfInBounds slot (some value) }

/-- A choice that is open: the instruction and the place to return to, and the memory there. -/
structure Choice where
  index : Nat
  position : Nat
  memory : Memory

/-- A running search: the next instruction, the place, the memory, the open choices with their
number, and the number of returns so far. -/
structure Run where
  index : Nat
  position : Nat
  memory : Memory
  choices : List Choice
  openCount : Nat
  returns : Nat

/-- What an instruction leads to. -/
inductive Outcome where
  | go (run : Run)
  | fail (run : Run)
  | done
  | fault (fault : SearchFault)

namespace Run

def advance (run : Run) : Run := { run with index := run.index + 1 }

/-- Goes on at one instruction, and leaves the choice to go on at another one. -/
def choose (run : Run) (first second : Nat) : Outcome :=
  if run.openCount < choiceLimit then
    .go { run with
      index := first
      choices := ⟨second, run.position, run.memory⟩ :: run.choices
      openCount := run.openCount + 1 }
  else .fault .choices

def take (run : Run) (count : Nat) : Outcome :=
  .go { run with index := run.index + 1, position := run.position + count }

/-- Goes on if a condition holds. -/
def check (run : Run) (condition : Bool) : Outcome :=
  if condition then .go run.advance else .fail run

def save (run : Run) (slot value : Nat) : Run :=
  { run with memory := run.memory.set slot value }

/-- Drops the latest choices, until a number of them is left. -/
def cut (run : Run) (count : Nat) : Run :=
  { run with
    choices := run.choices.drop (run.openCount - count)
    openCount := min count run.openCount }

/-- Drops the latest choices up to the one that leads to an instruction. -/
def dropUpTo (index : Nat) : List Choice → Nat → List Choice × Nat
  | [], _ => ([], 0)
  | choice :: rest, count =>
      if choice.index = index then (rest, count - 1) else dropUpTo index rest (count - 1)

end Run

def matchesText (text : Array Char) : Nat → List Char → Bool
  | _, [] => true
  | position, character :: rest =>
      text[position]? == some character && matchesText text (position + 1) rest

/-- One round of a loop that counts its rounds. -/
def repeatStep (run : Run) (least next slot : Nat) (greedy : Bool) : Outcome :=
  let count := (run.memory.get slot).getD 0
  let counted := run.save slot (count + 1)
  if count < least then .go counted.advance
  else if greedy then counted.choose (run.index + 1) next
  else counted.choose next (run.index + 1)

/-- Does one instruction. -/
def step (program : Program) (text : Array Char) (run : Run) : Outcome :=
  match program.code[run.index]? with
  | none => .fail run
  | some instruction =>
      match instruction with
      | .text characters =>
          if matchesText text run.position characters then run.take characters.length
          else .fail run
      | .any newline =>
          match text[run.position]? with
          | some character => if newline ∨ character ≠ '\n' then run.take 1 else .fail run
          | none => .fail run
      | .anchor kind => run.check (kind.holds text run.position)
      | .split first second => run.choose first second
      | .jump target => .go { run with index := target }
      | .save slot => .go (run.save slot run.position).advance
      | .clear slot => .go (run.save slot 0).advance
      | .restore slot =>
          .go { run.advance with position := (run.memory.get slot).getD run.position }
      | .repeatUpTo least most next slot greedy =>
          if run.memory.get slot = some most then .go { run with index := next }
          else repeatStep run least next slot greedy
      | .repeatNonempty least next slot check greedy =>
          let count := (run.memory.get slot).getD 0
          if 0 < count ∧ run.memory.get check = some run.position then .fail run
          else
            let marked := if least ≤ count then run.save check run.position else run
            repeatStep marked least next slot greedy
      | .back count =>
          if count ≤ run.position then
            .go { run.advance with position := run.position - count }
          else .fail run
      | .failAround =>
          let (choices, count) := Run.dropUpTo (run.index + 1) run.choices run.openCount
          .fail { run with choices := choices, openCount := count }
      | .reference index =>
          match run.memory.get (2 * index), run.memory.get (2 * index + 1) with
          | some first, some last =>
              let part := (text.extract first last).toList
              if matchesText text run.position part then run.take part.length else .fail run
          | _, _ => .fail run
      | .isSet index => run.check (run.memory.get (2 * index)).isSome
      | .openAtomic =>
          .go { run.advance with
            memory := { run.memory with atomics := run.openCount :: run.memory.atomics } }
      | .closeAtomic =>
          match run.memory.atomics with
          | count :: rest =>
              .go { (run.cut count).advance with memory := { run.memory with atomics := rest } }
          | [] => .fail run
      | .automaton automaton firstGroup groups =>
          match automaton.matchAt? text run.position with
          | none => .fail run
          | some (stop, borders) =>
              let slots := (List.range (2 * groups)).foldl
                (fun slots offset =>
                  slots.setIfInBounds (2 * firstGroup + offset) (borders.lookup (offset + 2)))
                run.memory.slots
              .go { run.advance with
                position := stop
                memory := { run.memory with slots := slots } }
      | .resume => run.check (run.position == 0)
      | .finish => .done

/-- Does instructions until the search ends. The number bounds the instructions; a search that does
not end within it counts as one with too many returns. -/
def runWithin (program : Program) (text : Array Char) : Nat → Run → Except SearchFault Bool
  | 0, _ => .error .returns
  | fuel + 1, run =>
      match step program text run with
      | .done => .ok true
      | .fault fault => .error fault
      | .go run => runWithin program text fuel run
      | .fail run =>
          match run.choices with
          | [] => .ok false
          | choice :: rest =>
              if returnLimit ≤ run.returns then .error .returns
              else
                runWithin program text fuel
                  ⟨choice.index, choice.position, choice.memory, rest, run.openCount - 1,
                    run.returns + 1⟩

/-- A bound on the instructions of a search. -/
def instructionLimit : Nat := Nat.pow 10 12

/-- Whether a program finds its pattern in a text. -/
def Program.isMatch (program : Program) (text : Array Char) : Except SearchFault Bool :=
  runWithin program text instructionLimit
    ⟨0, 0, ⟨Array.replicate program.slots none, []⟩, [], 0, 0⟩

end ApiContract.Pattern.Extended
