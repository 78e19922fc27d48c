/-
This file holds sets of code points as closed ranges in increasing order, with a gap between any two
of them. Sets that come from other sets keep this form.
-/

namespace ApiContract

/-- A set of code points. -/
structure CodeSet where
  ranges : Array (Nat × Nat)
  deriving DecidableEq, Repr, Inhabited

namespace CodeSet

def empty : CodeSet := ⟨#[]⟩

def isEmpty (set : CodeSet) : Bool := set.ranges.isEmpty

/-- The number of the ranges between two indices that start at or before a code point. -/
def search (ranges : Array (Nat × Nat)) (code : Nat) : Nat → Nat → Nat → Nat
  | 0, low, _ => low
  | fuel + 1, low, high =>
      if high ≤ low then low
      else
        let middle := (low + high) / 2
        if ranges[middle]?.any (·.1 ≤ code) then search ranges code fuel (middle + 1) high
        else search ranges code fuel low middle

/-- Whether a code point is in a set: only the last range that starts before it can hold it. -/
def contains (set : CodeSet) (code : Nat) : Bool :=
  match search set.ranges code (set.ranges.size + 1) 0 set.ranges.size with
  | 0 => false
  | count + 1 => set.ranges[count]?.any (code ≤ ·.2)

def accepts (set : CodeSet) (character : Char) : Bool := set.contains character.toNat

/-- Puts a range behind ranges that start before it, and joins it to the last one if they touch. -/
def append (ranges : Array (Nat × Nat)) (range : Nat × Nat) : Array (Nat × Nat) :=
  match ranges.back? with
  | some (first, last) =>
      if range.1 ≤ last + 1 then ranges.pop.push (first, max last range.2) else ranges.push range
  | none => ranges.push range

/-- The set of some ranges in any order. -/
def ofRanges (ranges : List (Nat × Nat)) : CodeSet :=
  ⟨(ranges.mergeSort fun first second => first.1 ≤ second.1).foldl append #[]⟩

def ofRange (first last : Nat) : CodeSet := if first ≤ last then ⟨#[(first, last)]⟩ else empty

def single (code : Nat) : CodeSet := ⟨#[(code, code)]⟩

def union (first second : CodeSet) : CodeSet :=
  if first.isEmpty then second
  else if second.isEmpty then first
  else ofRanges (first.ranges.toList ++ second.ranges.toList)

/-- The gaps between ranges from a code point on, up to the last code point of all. -/
def gaps (last : Nat) : Nat → List (Nat × Nat) → List (Nat × Nat)
  | start, [] => if start ≤ last then [(start, last)] else []
  | start, range :: rest =>
      if start < range.1 then (start, range.1 - 1) :: gaps last (range.2 + 1) rest
      else gaps last (range.2 + 1) rest

/-- The code points up to the last one that are not in a set. -/
def outside (set : CodeSet) : CodeSet := ⟨(gaps 0x10FFFF 0 set.ranges.toList).toArray⟩

/-- The code points in both sets: those outside of which no set leaves them. -/
def inter (first second : CodeSet) : CodeSet := (first.outside.union second.outside).outside

def diff (first second : CodeSet) : CodeSet := (first.outside.union second).outside

def symmDiff (first second : CodeSet) : CodeSet := (first.diff second).union (second.diff first)

/-- All characters: the code points without the surrogates. -/
def characters : CodeSet := ⟨#[(0, 0xD7FF), (0xE000, 0x10FFFF)]⟩

/-- The characters that are not in a set. -/
def complement (set : CodeSet) : CodeSet := characters.diff set

/-- The number of code points in a set. -/
def size (set : CodeSet) : Nat :=
  set.ranges.foldl (fun sum range => sum + (range.2 + 1 - range.1)) 0

/-- Whether all code points of a set are below a bound. -/
def isBelow (set : CodeSet) (bound : Nat) : Bool := set.ranges.all (·.2 < bound)

def ofList (sets : List CodeSet) : CodeSet :=
  ofRanges (sets.flatMap (·.ranges.toList))

end CodeSet

end ApiContract
