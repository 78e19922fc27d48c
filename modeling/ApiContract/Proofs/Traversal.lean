import Mathlib.Tactic

/-
This file treats lists whose items are worked on one after the other, where each step may fail.
-/

namespace ApiContract

variable {α β ε : Type}

/-- Each item of one list is related to one of the other. -/
theorem exists_of_forall₂ {relation : α → β → Prop} {items : List α} {items' : List β}
    (each : List.Forall₂ relation items items') :
    ∀ item ∈ items, ∃ item' ∈ items', relation item item' := by
  induction each with
  | nil => exact nofun
  | cons first _ ih =>
      refine List.forall_mem_cons.mpr ⟨⟨_, .head _, first⟩, fun item member => ?_⟩
      obtain ⟨item', member', related⟩ := ih item member
      exact ⟨item', .tail _ member', related⟩

/-- To weaken a relation between lists it is enough to weaken it between their items. -/
theorem forall₂_imp_of_mem {relation weaker : α → β → Prop} {items : List α} {items' : List β}
    (each : List.Forall₂ relation items items')
    (implies : ∀ item ∈ items, ∀ item' ∈ items', relation item item' → weaker item item') :
    List.Forall₂ weaker items items' := by
  induction each with
  | nil => exact .nil
  | cons first _ ih =>
      refine .cons (implies _ (.head _) _ (.head _) first) (ih fun item member item' member' => ?_)
      exact implies item (.tail _ member) item' (.tail _ member')

/-- A step after another succeeds if and only if both do. -/
theorem bind_eq_ok_iff (first : Except ε α) (next : α → Except ε β) (result : β) :
    first >>= next = .ok result ↔ ∃ value, first = .ok value ∧ next value = .ok result := by
  cases first with
  | error reason => exact ⟨nofun, fun ⟨_, failed, _⟩ => nomatch failed⟩
  | ok value =>
      exact ⟨fun held => ⟨value, rfl, held⟩, fun ⟨_, same, held⟩ => Except.ok.inj same ▸ held⟩

/-- A result that is there is that of a success. -/
theorem eq_ok_of_toOption {result : Except ε α} {value : α}
    (found : result.toOption = some value) : result = .ok value := by
  cases result <;> cases found
  rfl

/-- What fails is what gives no result. -/
theorem exists_error_iff (result : Except ε α) :
    (∃ error, result = .error error) ↔ ¬∃ value, result = .ok value := by
  cases result with
  | error error => exact ⟨fun _ => nofun, fun _ => ⟨error, rfl⟩⟩
  | ok value => exact ⟨nofun, fun none => absurd ⟨value, rfl⟩ none⟩

/-- Working on all items succeeds if and only if each of them does. -/
theorem mapM_eq_ok_iff (step : α → Except ε β) (items : List α) (results : List β) :
    items.mapM step = .ok results ↔ List.Forall₂ (fun item result => step item = .ok result) items
      results := by
  induction items generalizing results with
  | nil =>
      rw [List.mapM_nil, List.forall₂_nil_left_iff]
      exact ⟨fun same => (Except.ok.inj same).symm, fun same => same ▸ rfl⟩
  | cons item rest ih =>
      rw [List.mapM_cons, List.forall₂_cons_left_iff, bind_eq_ok_iff]
      constructor
      · rintro ⟨result, own, onward⟩
        obtain ⟨list, others, last⟩ := (bind_eq_ok_iff _ _ _).mp onward
        exact ⟨result, list, own, (ih list).mp others, (Except.ok.inj last).symm⟩
      · rintro ⟨result, list, own, others, rfl⟩
        exact ⟨result, own, (bind_eq_ok_iff _ _ _).mpr ⟨list, (ih list).mpr others, rfl⟩⟩

/-- What keeps the items from being worked on is the fault of the first that cannot be. -/
theorem mapM_eq_error_iff (step : α → Except ε β) (items : List α) (error : ε) :
    items.mapM step = .error error ↔
      ∃ item, items.find? (fun item => !(step item).isOk) = some item ∧
        step item = .error error := by
  induction items with
  | nil => exact ⟨nofun, nofun⟩
  | cons item rest ih =>
      rw [List.mapM_cons]
      cases own : step item with
      | error reason =>
          rw [List.find?_cons_of_pos (by rw [own]; rfl)]
          constructor
          · intro failed
            cases failed
            exact ⟨item, rfl, own⟩
          · rintro ⟨_, ⟨⟩, failed⟩
            cases own.symm.trans failed
            rfl
      | ok result =>
          rw [List.find?_cons_of_neg (by rw [own]; exact Bool.false_ne_true), ← ih]
          cases rest.mapM step with
          | error reason => exact ⟨fun failed => by cases failed; rfl, fun failed => by cases failed; rfl⟩
          | ok results => exact ⟨nofun, nofun⟩

/-- Each item can be worked on if all can. -/
theorem exists_of_mapM {step : α → Except ε β} {items : List α} {results : List β}
    (worked : items.mapM step = .ok results) {item : α} (member : item ∈ items) :
    ∃ result ∈ results, step item = .ok result := by
  rw [mapM_eq_ok_iff] at worked
  induction worked with
  | nil => cases member
  | cons first _ ih =>
      rcases List.mem_cons.mp member with rfl | inside
      · exact ⟨_, .head _, first⟩
      · obtain ⟨result, listed, made⟩ := ih inside
        exact ⟨result, .tail _ listed, made⟩

/-- What holds of all results holds of the result of each item. -/
theorem forall_mem_of_mapM {step : α → Except ε β} {items : List α} {results : List β}
    (worked : items.mapM step = .ok results) (property : β → Prop) :
    (∀ result ∈ results, property result) ↔
      ∀ item ∈ items, ∀ result, step item = .ok result → property result := by
  rw [mapM_eq_ok_iff] at worked
  induction worked with
  | nil => exact ⟨nofun, nofun⟩
  | @cons item result rest list first _ ih =>
      have own : property result ↔ ∀ other, step item = .ok other → property other :=
        ⟨fun held other same => Except.ok.inj (first.symm.trans same) ▸ held,
          fun held => held result first⟩
      rw [List.forall_mem_cons, List.forall_mem_cons, ih, own]

/-- Where each item can be worked on, so can all of them. -/
theorem mapM_of_forall {step : α → Except ε β} {property : β → Prop} {items : List α}
    (each : ∀ item ∈ items, ∃ result, step item = .ok result ∧ property result) :
    ∃ results, items.mapM step = .ok results ∧ ∀ result ∈ results, property result := by
  induction items with
  | nil => exact ⟨[], rfl, nofun⟩
  | cons item rest ih =>
      obtain ⟨own, others⟩ := List.forall_mem_cons.mp each
      obtain ⟨result, made, held⟩ := own
      obtain ⟨list, listed, all⟩ := ih others
      refine ⟨result :: list, ?_, List.forall_mem_cons.mpr ⟨held, all⟩⟩
      rw [mapM_eq_ok_iff] at listed ⊢
      exact .cons made listed

/-- All items can be worked on if and only if each of them can. -/
theorem exists_mapM_iff (step : α → Except ε β) (items : List α) :
    (∃ results, items.mapM step = .ok results) ↔
      ∀ item ∈ items, ∃ result, step item = .ok result := by
  constructor
  · rintro ⟨results, worked⟩ item member
    obtain ⟨result, _, made⟩ := exists_of_mapM worked member
    exact ⟨result, made⟩
  · intro each
    have made (item : α) (member : item ∈ items) : ∃ result, step item = .ok result ∧ True :=
      (each item member).imp fun _ done => ⟨done, trivial⟩
    obtain ⟨results, worked, _⟩ := mapM_of_forall made
    exact ⟨results, worked⟩

/-- Whether a step succeeds if another one does, with a result that is related to its result. -/
def Tracks (related : α → β → Prop) (result : Except ε α) (result' : Except ε β) : Prop :=
  ∀ value', result' = .ok value' → ∃ value, result = .ok value ∧ related value value'

namespace Tracks

variable {α' β' : Type} {related : α → β → Prop} {related' : α' → β' → Prop}
variable {result : Except ε α} {result' : Except ε β}

/-- Results that are related track one another. -/
theorem ok {value : α} {value' : β} (held : related value value') :
    Tracks related (.ok value : Except ε α) (.ok value') :=
  fun _ same => ⟨value, rfl, Except.ok.inj same ▸ held⟩

/-- Steps that track one another do so one after the other. -/
theorem bind {next : α → Except ε α'} {next' : β → Except ε β'}
    (first : Tracks related result result')
    (onward : ∀ value value', related value value' →
      Tracks related' (next value) (next' value')) :
    Tracks related' (result >>= next) (result' >>= next') := by
  intro last' made
  obtain ⟨value', own, rest⟩ := (bind_eq_ok_iff _ _ _).mp made
  obtain ⟨value, held, alike⟩ := first value' own
  obtain ⟨last, done, final⟩ := onward value value' alike last' rest
  exact ⟨last, (bind_eq_ok_iff _ _ _).mpr ⟨value, held, done⟩, final⟩

/-- What tracks still does so if related results are changed alike. -/
theorem map {next : α → α'} {next' : β → β'} (first : Tracks related result result')
    (onward : ∀ value value', related value value' → related' (next value) (next' value')) :
    Tracks related' (result.map next) (result'.map next') := by
  intro last' made
  cases result' with
  | error => cases made
  | ok value' =>
      obtain ⟨value, rfl, alike⟩ := first value' rfl
      cases made
      exact ⟨next value, rfl, onward value value' alike⟩

/-- One list can be worked on if another with items that do as well can be. -/
theorem mapM {step : α → Except ε α'} {step' : β → Except ε β'} {items : List α} {items' : List β}
    (each : List.Forall₂ (fun item item' => Tracks related' (step item) (step' item')) items
      items') : Tracks (List.Forall₂ related') (items.mapM step) (items'.mapM step') := by
  intro list' worked
  rw [mapM_eq_ok_iff] at worked
  induction each generalizing list' with
  | nil =>
      rw [List.forall₂_nil_left_iff] at worked
      subst worked
      exact ⟨[], rfl, .nil⟩
  | cons first _ ih =>
      obtain ⟨value', rest', own, others, rfl⟩ := List.forall₂_cons_left_iff.mp worked
      obtain ⟨value, made, same⟩ := first value' own
      obtain ⟨list, listed, sames⟩ := ih rest' others
      refine ⟨value :: list, ?_, .cons same sames⟩
      rw [mapM_eq_ok_iff] at listed ⊢
      exact .cons made listed

end Tracks

end ApiContract
