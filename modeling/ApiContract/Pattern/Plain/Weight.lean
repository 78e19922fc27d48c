import ApiContract.Pattern.Plain.Regular

/-
This file estimates the memory that an automaton over bytes takes for a regular expression. Patterns
that would take too much are refused. A state takes 32 bytes, an edge of a state with many of them
8, and a branch 4.
-/

namespace ApiContract.Pattern.Plain

/-- The ranges of the bytes of code points: a list of closed ranges, one for each byte. -/
abbrev ByteRanges := List (Nat × Nat)

/-- The lowest and the highest code point with an encoding of a given length. -/
def encodingBounds : List (Nat × Nat × Nat) :=
  [(1, 0, 0x7F), (2, 0x80, 0x7FF), (3, 0x800, 0xFFFF), (4, 0x10000, 0x10FFFF)]

/-- The bits of the first byte that tell its length. -/
def leadingBits (length : Nat) : Nat :=
  match length with
  | 1 => 0
  | 2 => 0xC0
  | 3 => 0xE0
  | _ => 0xF0

/-- Splits a range of numbers of some base-64 digits into products of ranges of digits. The first
digit is written with the given leading bits. -/
def digitRanges (leading : Nat) : Nat → Nat → Nat → List ByteRanges
  | 0, _, _ => []
  | 1, first, last => [[(leading + first, leading + last)]]
  | length + 1, first, last =>
      let unit := Nat.pow 64 length
      let (high, low) := (first / unit, first % unit)
      let (high', low') := (last / unit, last % unit)
      if high = high' then
        (digitRanges 0x80 length low low').map ((leading + high, leading + high) :: ·)
      else
        let starts : Bool := low = 0
        let ends : Bool := low' = unit - 1
        let before := if starts then [] else
          (digitRanges 0x80 length low (unit - 1)).map ((leading + high, leading + high) :: ·)
        let after := if ends then [] else
          (digitRanges 0x80 length 0 low').map ((leading + high', leading + high') :: ·)
        let fromDigit := if starts then high else high + 1
        let upToDigit := if ends then high' + 1 else high'
        let middle := if fromDigit < upToDigit then
          (digitRanges 0x80 length 0 (unit - 1)).map
            ((leading + fromDigit, leading + (upToDigit - 1)) :: ·)
          else []
        before ++ middle ++ after

/-- The encodings of a range of code points. -/
def encodings (range : Nat × Nat) : List ByteRanges :=
  encodingBounds.flatMap fun (length, low, high) =>
    let first := max range.1 low
    let last := min range.2 high
    if first ≤ last then digitRanges (leadingBits length) length first last else []

/-- The length of the common start of two lists. -/
def commonLength : ByteRanges → ByteRanges → Nat
  | first :: rest, second :: rest' => if first = second then 1 + commonLength rest rest' else 0
  | _, _ => 0

/-- The number of nodes of the tree of some encodings in order, after a given one. -/
def treeSize : ByteRanges → List ByteRanges → Nat
  | _, [] => 0
  | before, encoding :: rest =>
      encoding.length - commonLength before encoding + treeSize encoding rest

/-- The memory for a set. The states for a set beyond ASCII are the nodes of the tree of its
encodings, with one more that branches and one that joins. -/
def setWeight (set : CodeSet) : Nat :=
  match set.ranges.toList with
  | [] => 32
  | [(first, last)] =>
      if first = last then 32 * (Char.ofNat first).utf8Size
      else if last < 128 then 72
      else manyWeight [(first, last)]
  | several => if set.isBelow 128 then 64 + 8 * several.length else manyWeight several
where
  manyWeight (ranges : List (Nat × Nat)) : Nat :=
    let all := ranges.flatMap encodings
    64 + 4 * all.length + 32 * treeSize [] all

mutual

/-- The memory for a regular expression. A repetition takes a copy for each time. -/
def Regular.weight : Regular → Nat
  | .empty => 32
  | .set set => setWeight set
  | .anchor _ => 32
  | .sequence parts => weights parts
  | .choice branches => 64 + 4 * branches.length + weights branches
  | .repetition body least most _ =>
      let single := body.weight
      match most with
      | none => max 1 least * single + 40
      | some most =>
          if most = 0 then 32
          else if most = least then least * single
          else least * single + (most - least) * (single + 40) + 32
  | .group _ body => 64 + body.weight

def weights : List Regular → Nat
  | [] => 0
  | part :: rest => part.weight + weights rest

end

/-- The memory for the whole automaton; its start and its end take a fixed part. -/
def Regular.totalWeight (regular : Regular) : Nat := regular.weight + 208

/-- The greatest memory that a pattern may take. -/
def weightLimit : Nat := 10 * 1024 * 1024

end ApiContract.Pattern.Plain
