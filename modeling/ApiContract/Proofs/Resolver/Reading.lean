import ApiContract.Proofs.Resolver.Chain

/-
This file says what a chain of references leads to, without a cache and without a memory of the
targets on the way, and proves that a resolver finds exactly that. A target that comes again means
that the chain never ends.
-/

namespace ApiContract

/-- A reference on a chain, with the file and the document that it is read in. -/
structure Reading where
  text : String
  file : Path
  document : Option Json

namespace Landing

/-- The reference that a chain goes on with. -/
def next? (landing : Landing) : Option Reading :=
  landing.value.reference?.map fun text => ⟨text, landing.file, some landing.document⟩

end Landing

namespace Library

/-- The file and the document that a reference names. -/
def enter? (library : Library) (file : Path) (document : Option Json) :
    Reference → Option (Path × Json)
  | .inDocument _ => document.map fun document => (file, document)
  | .inFile relative _ =>
      match library.files.canonical? ((file.parent?.getD ⟨"."⟩).join ⟨relative⟩) with
      | none => none
      | some target => (library.document? target).map fun document => (target, document)

/-- The node that one reference leads to. -/
def land? (library : Library) (reading : Reading) : Option Landing :=
  match Reference.ofString? reading.text with
  | none => none
  | some reference =>
      match library.enter? reading.file reading.document reference with
      | none => none
      | some (file, document) =>
          (document.at? reference.pointer).map fun value =>
            ⟨file, document, reference.pointer, value⟩

/-- The reference of a chain after a number of links. -/
def reading? (library : Library) (start : Reading) : Nat → Option Reading
  | 0 => some start
  | count + 1 =>
      (library.reading? start count).bind fun reading =>
        (library.land? reading).bind Landing.next?

/-- Whether a chain ends at a node that is no reference. -/
def Leads (library : Library) (start : Reading) (resolved : Resolved) : Prop :=
  ∃ count reading landing, library.reading? start count = some reading ∧
    library.land? reading = some landing ∧ landing.value.reference? = none ∧
      landing.resolved = resolved

/-- Why a reference leads to no node. -/
inductive Breaks (library : Library) (reading : Reading) : Prop where
  | shape (unread : Reference.ofString? reading.text = none)
  | ownDocument (pointer : String)
      (read : Reference.ofString? reading.text = some (.inDocument pointer))
      (missing : reading.document = none)
  | noFile (relative pointer : String)
      (read : Reference.ofString? reading.text = some (.inFile relative pointer))
      (missing : library.files.canonical?
        ((reading.file.parent?.getD ⟨"."⟩).join ⟨relative⟩) = none)
  | noDocument (relative pointer : String) (target : Path)
      (read : Reference.ofString? reading.text = some (.inFile relative pointer))
      (leads : library.files.canonical?
        ((reading.file.parent?.getD ⟨"."⟩).join ⟨relative⟩) = some target)
      (missing : library.document? target = none)
  | noNode (reference : Reference) (file : Path) (document : Json)
      (read : Reference.ofString? reading.text = some reference)
      (entered : library.enter? reading.file reading.document reference = some (file, document))
      (missing : document.at? reference.pointer = none)

/-- Whether a chain goes on for ever. -/
def Endless (library : Library) (start : Reading) : Prop :=
  ∀ count, (library.reading? start count).isSome = true

/-- Whether a chain breaks off, or never ends. -/
def Fails (library : Library) (start : Reading) : Prop :=
  (∃ count reading, library.reading? start count = some reading ∧ library.Breaks reading) ∨
    library.Endless start

/-- A reading that lands nowhere breaks. -/
theorem land?_eq_none (library : Library) (reading : Reading) :
    library.land? reading = none ↔ library.Breaks reading := by
  unfold land?
  cases read : Reference.ofString? reading.text with
  | none => simp [Breaks.shape read]
  | some reference =>
      dsimp only
      cases entered : library.enter? reading.file reading.document reference with
      | none =>
          refine iff_of_true rfl ?_
          cases reference with
          | inDocument pointer =>
              exact .ownDocument pointer read (Option.map_eq_none_iff.mp entered)
          | inFile relative pointer =>
              cases leads : library.files.canonical?
                  ((reading.file.parent?.getD ⟨"."⟩).join ⟨relative⟩) with
              | none => exact .noFile relative pointer read leads
              | some target =>
                  simp only [enter?, leads, Option.map_eq_none_iff] at entered
                  exact .noDocument relative pointer target read leads entered
      | some place =>
          obtain ⟨file, document⟩ := place
          rw [Option.map_eq_none_iff]
          constructor
          · exact .noNode reference file document read entered
          · intro breaks
            cases breaks with
            | shape unread => rw [read] at unread; cases unread
            | ownDocument pointer read' missing =>
                cases read.symm.trans read'
                simp [enter?, missing] at entered
            | noFile relative pointer read' missing =>
                cases read.symm.trans read'
                simp [enter?, missing] at entered
            | noDocument relative pointer target read' leads missing =>
                cases read.symm.trans read'
                simp [enter?, leads, missing] at entered
            | noNode reference' file' document' read' entered' missing =>
                cases read.symm.trans read'
                cases entered.symm.trans entered'
                exact missing

/-- Readings are counted on from a reading between. -/
theorem reading?_add (library : Library) (start between : Reading) (first count : Nat)
    (reached : library.reading? start first = some between) :
    library.reading? start (first + count) = library.reading? between count := by
  induction count with
  | zero => exact reached
  | succ count ih => rw [← Nat.add_assoc, reading?, ih, reading?]

/-- Behind the first reading stand those of the next one. -/
theorem reading?_next (library : Library) (start after : Reading) (landing : Landing)
    (lands : library.land? start = some landing) (next : landing.next? = some after) (count : Nat) :
    library.reading? start (count + 1) = library.reading? after count := by
  rw [Nat.add_comm]
  refine library.reading?_add start after 1 count ?_
  simp [reading?, lands, next]

/-- The first link of a chain, and the links after it. -/
theorem reading?_head (library : Library) (start : Reading) (count : Nat) :
    library.reading? start (count + 1) =
      ((library.land? start).bind Landing.next?).bind fun after => library.reading? after count := by
  induction count with
  | zero => simp [reading?]
  | succ count ih =>
      rw [reading?, ih, Option.bind_assoc]
      rfl

/-- A chain has no references beyond one that leads to none. -/
theorem count_le_of_last (library : Library) (start last : Reading) (count : Nat)
    (reached : library.reading? start count = some last)
    (ends : (library.land? last).bind Landing.next? = none) (other : Nat)
    (present : (library.reading? start other).isSome = true) : other ≤ count := by
  by_contra beyond
  obtain ⟨more, rfl⟩ := Nat.exists_eq_add_of_lt (Nat.lt_of_not_le beyond)
  have gone (extra : Nat) : library.reading? last (extra + 1) = none := by
    induction extra with
    | zero => rw [reading?, reading?, Option.bind_some, ends]
    | succ extra ih => rw [reading?, ih, Option.bind_none]
  rw [Nat.add_assoc, library.reading?_add start last count _ reached, gone] at present
  cases present

/-- A reading that leads to a value does so after finitely many others. -/
theorem leads_count (library : Library) (start : Reading) (resolved : Resolved)
    (leads : library.Leads start resolved) :
    ∃ count reading landing, library.reading? start count = some reading ∧
      library.land? reading = some landing ∧ landing.resolved = resolved ∧
      ∀ other, (library.reading? start other).isSome = true → other ≤ count := by
  obtain ⟨count, reading, landing, reached, lands, concrete, same⟩ := leads
  refine ⟨count, reading, landing, reached, lands, same, ?_⟩
  apply library.count_le_of_last start reading count reached
  rw [lands, Option.bind_some, Landing.next?, concrete, Option.map_none]

/-- A chain leads to one node at most. -/
theorem leads_unique (library : Library) (start : Reading) (first second : Resolved)
    (leads : library.Leads start first) (leads' : library.Leads start second) : first = second := by
  obtain ⟨count, reading, landing, reached, lands, same, last⟩ := library.leads_count start _ leads
  obtain ⟨count', reading', landing', reached', lands', same', last'⟩ :=
    library.leads_count start _ leads'
  obtain rfl : count = count' :=
    Nat.le_antisymm (last' count (by rw [reached]; rfl)) (last count' (by rw [reached']; rfl))
  cases reached.symm.trans reached'
  cases lands.symm.trans lands'
  exact same.symm.trans same'

/-- A chain that leads to a node does not break off on the way, and ends. -/
theorem not_fails_of_leads (library : Library) (start : Reading) (resolved : Resolved)
    (leads : library.Leads start resolved) :
    ¬library.Fails start := by
  obtain ⟨count, reading, landing, reached, lands, _, last⟩ := library.leads_count start _ leads
  rintro (⟨count', reading', reached', breaks⟩ | endless)
  · have nowhere := (library.land?_eq_none reading').mpr breaks
    have most : count ≤ count' :=
      library.count_le_of_last start reading' count' reached' (by rw [nowhere, Option.bind_none])
        count (by rw [reached]; rfl)
    obtain rfl : count = count' := Nat.le_antisymm most (last count' (by rw [reached']; rfl))
    cases reached.symm.trans reached'
    rw [lands] at nowhere
    cases nowhere
  · exact absurd (last (count + 1) (endless (count + 1))) (Nat.not_succ_le_self count)

end Library

end ApiContract
