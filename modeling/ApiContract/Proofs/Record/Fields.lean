import ApiContract.Proofs.Json.Members
import ApiContract.Proofs.Traversal
import ApiContract.Record

/-
This file proves what the fields of a record are after it was read from the members of an object. A
field is a view of the record that only its own step changes.
-/

namespace ApiContract

namespace Record

variable {α γ : Type}

/-- The step that reads a value and puts it into a record. -/
def setter (read : Json → Except RecordFault γ) (set : γ → α → α) (json : Json) (start : α) :
    Except RecordFault α := do
  return set (← read json) start

/-- A setter succeeds if the value of the field can be read, and sets it. -/
theorem setter_eq_ok_iff (read : Json → Except RecordFault γ) (set : γ → α → α) (json : Json)
    (start next : α) :
    setter read set json start = .ok next ↔
      ∃ value, read json = .ok value ∧ next = set value start := by
  rw [setter, bind_eq_ok_iff]
  exact exists_congr fun value => and_congr_right fun _ =>
    ⟨fun same => (Except.ok.inj same).symm, fun same => congrArg Except.ok same.symm⟩

/-- Whether a step changes nothing that a view shows. -/
def Spares (view : α → γ) (step : Json → α → Except RecordFault α) : Prop :=
  ∀ json start next, step json start = .ok next → view next = view start

/-- Whether a view of a record shows one field: the step under its key sets it to what it reads, and
the steps under the other keys spare it. -/
structure IsField (fields : List (String × (Json → α → Except RecordFault α))) (key : String)
    (read : Json → Except RecordFault γ) (view : α → γ) : Prop where
  own : ∃ set, fields.lookup key = some (setter read set) ∧
    ∀ value start, view (set value start) = value
  others : fields.Forall fun entry => entry.1 ≠ key → Spares view entry.2

section

variable {fields : List (String × (Json → α → Except RecordFault α))}

/-- The other fields of a record spare a field. -/
theorem IsField.spares {key other : String} {read : Json → Except RecordFault γ} {view : α → γ}
    (field : IsField fields key read view) {step : Json → α → Except RecordFault α}
    (found : fields.lookup other = some step) (different : other ≠ key) : Spares view step :=
  List.forall_iff_forall_mem.mp field.others _ (Table.mem_of_lookup fields other step found) different

/-- What the steps of all members spare is as it was at the start. -/
theorem readMembers_spares {view : α → γ} {members : List (String × Json)} {start result : α}
    (spared : ∀ member ∈ members, ∀ step, fields.lookup member.1 = some step → Spares view step)
    (made : readMembers fields start members = .ok result) : view result = view start := by
  induction members generalizing start with
  | nil => cases made; rfl
  | cons member rest ih =>
      obtain ⟨key, json⟩ := member
      obtain ⟨first, others⟩ := List.forall_mem_cons.mp spared
      rw [readMembers] at made
      split at made
      · exact ih others made
      · next step known =>
          obtain ⟨next, stepped, onward⟩ := (bind_eq_ok_iff _ _ _).mp made
          rw [ih others onward]
          exact first step known json start next stepped

/-- A field that is read from members in order holds what its member is read as, or else what it
held at the start. -/
theorem IsField.readMembers {key : String} {read : Json → Except RecordFault γ} {view : α → γ}
    (field : IsField fields key read view) {members : List (String × Json)}
    (ordered : Table.InOrder members) {start result : α}
    (made : readMembers fields start members = .ok result) :
    ∃ named, (members.lookup key).mapM read = .ok named ∧ view result = named.getD (view start) := by
  induction members generalizing start with
  | nil => cases made; exact ⟨none, rfl, rfl⟩
  | cons member rest ih =>
      obtain ⟨here, json⟩ := member
      obtain ⟨above, others⟩ := List.pairwise_cons.mp ordered
      rw [Table.lookup_cons]
      rw [Record.readMembers] at made
      by_cases same : key = here
      · subst same
        obtain ⟨set, known, sets⟩ := field.own
        rw [known] at made
        obtain ⟨next, stepped, onward⟩ := (bind_eq_ok_iff _ _ _).mp made
        obtain ⟨value, held, rfl⟩ := (setter_eq_ok_iff read set json start next).mp stepped
        have spared : view result = view (set value start) := readMembers_spares
          (fun member inside _ found => field.spares found (above member inside).ne') onward
        refine ⟨some value, ?_, spared.trans (sets value start)⟩
        rw [if_pos rfl, Option.mapM_some, held]
        rfl
      · rw [if_neg same]
        split at made
        · exact ih others made
        · next step known =>
            obtain ⟨next, stepped, onward⟩ := (bind_eq_ok_iff _ _ _).mp made
            rw [← field.spares known (Ne.symm same) json start next stepped]
            exact ih others onward

end

end Record

end ApiContract
