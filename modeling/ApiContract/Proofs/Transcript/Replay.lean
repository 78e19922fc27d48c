import ApiContract.Command
import ApiContract.Proofs.File.Walk
import ApiContract.Proofs.Summary.Recording
import ApiContract.Proofs.Traversal

/-
This file proves that a replay of a transcript comes to what checks of its calls come to, one by one: it
counts every call, lists the failures and the skips in their order, and succeeds exactly if each call
does.
-/

namespace ApiContract

namespace Report

/-- A report on one outcome has the code of a success unless the outcome failed. -/
theorem exitCode_ofOutcome (label : String) (outcome : Outcome) :
    (ofOutcome label outcome).exitCode = 0 ↔ outcome.isFailed = false := by
  cases outcome <;> simp [ofOutcome, printed, Outcome.isFailed]

/-- What is printed decides the exit code by its success alone. -/
theorem exitCode_printed (output : String) (succeeded : Bool) :
    (printed output succeeded).exitCode = 0 ↔ succeeded = true := by
  cases succeeded <;> simp [printed]

end Report

namespace Transcript

open Summary

/-- The outcome of a call that is checked alone. -/
def outcomeOf (registry : Registry) (call : RecordedCall) : Outcome :=
  registry.checkResponse call.module call.method call.path call.status call.body

/-- Calls have their outcomes one after the other. -/
theorem outcomes_append (registry : Registry) (first second : List RecordedCall) :
    outcomes registry (first ++ second) = outcomes registry first ++ outcomes registry second :=
  List.map_append

/-- A replay comes to what the outcomes of its calls come to. -/
theorem replay_eq_tally (registry : Registry) (calls : List RecordedCall) :
    replay registry calls = tally (outcomes registry calls) :=
  recordAll_empty _

/-- A replay succeeds if and only if each of its calls passes its own check. -/
theorem exitCode_runReplay (registry : Registry) (calls : List RecordedCall) (each : Bool) :
    (Command.runReplay registry calls each).exitCode = 0 ↔
      ∀ call ∈ calls, (Command.runCheckResponse registry call).exitCode = 0 := by
  rw [Command.runReplay, Report.exitCode_printed, replay_eq_tally, isClean_tally_iff, outcomes,
    List.forall_mem_map]
  exact forall₂_congr fun call _ => (Report.exitCode_ofOutcome call.label _).symm

/-- What it takes to hand a body to a check of its call alone: the files, the standard input, and
the file of the body, if any. -/
structure Handover where
  files : FileSystem
  input : List Nat
  body : Option Path

/-- Whether the body of a call is what is handed over. -/
def Handover.Gives (handover : Handover) (body : Json) : Prop :=
  (BodySource.ofOption handover.body).read handover.files handover.input = .ok body

/-- A check of a call alone, with its body handed over. -/
def Handover.check (handover : Handover) (registry : Registry) (call : RecordedCall) : Report :=
  Command.run handover.files handover.input registry
    (.checkResponse call.module call.method call.path call.status handover.body)

/-- A body that is handed over is checked as if it were in the call. -/
theorem Handover.check_eq (handover : Handover) (registry : Registry) (call : RecordedCall)
    (gives : handover.Gives call.body) :
    handover.check registry call = Command.runCheckResponse registry call := by
  unfold Gives at gives
  simp only [check, Command.run, gives]

/-- Replaying a transcript that can be loaded replays its calls. -/
theorem run_replay (files : FileSystem) (input : List Nat) (registry : Registry) (transcript : Path)
    (calls : List RecordedCall) (each : Bool) (loaded : load files transcript = .ok calls) :
    Command.run files input registry (.replay transcript each) =
      Command.runReplay registry calls each := by
  simp only [Command.run, loaded]

/-- A replay of a transcript composes, and succeeds with the failures and the skips of its calls
checked one by one. -/
theorem replay_agrees_with_single_checks (registry : Registry) (first second : List RecordedCall) :
    replay registry (first ++ second) = (replay registry first).merge (replay registry second) ∧
      (replay registry first).total = first.length ∧
      (replay registry first).failures =
        first.filterMap (fun call => failureOf? call.label (outcomeOf registry call)) ∧
      (replay registry first).skips =
        first.filterMap (fun call => skipOf? call.label (outcomeOf registry call)) ∧
      -- The exit code is that of the calls checked one by one, however their bodies are handed over.
      (∀ each, (Command.runReplay registry first each).exitCode = 0 ↔
        ∀ call ∈ first, (Command.runCheckResponse registry call).exitCode = 0) ∧
      ∀ (files : FileSystem) (input : List Nat) (transcript : Path) (each : Bool)
        (handover : RecordedCall → Handover), load files transcript = .ok first →
          (∀ call ∈ first, (handover call).Gives call.body) →
            ((Command.run files input registry (.replay transcript each)).exitCode = 0 ↔
              ∀ call ∈ first, ((handover call).check registry call).exitCode = 0) := by
  refine ⟨?_, ?_, ?_, ?_, exitCode_runReplay registry first, ?_⟩
  · rw [replay_eq_tally, outcomes_append, tally_append, ← replay_eq_tally, ← replay_eq_tally]
  · rw [replay_eq_tally, total_tally, outcomes, List.length_map]
  · simp only [replay_eq_tally, tally, outcomes, List.filterMap_map]
    rfl
  · simp only [replay_eq_tally, tally, outcomes, List.filterMap_map]
    rfl
  · intro files input transcript each handover loaded gives
    rw [run_replay files input registry transcript first each loaded, exitCode_runReplay]
    refine forall₂_congr fun call member => ?_
    rw [(handover call).check_eq registry call (gives call member)]

end Transcript

namespace PetCalls

open Transcript

/-- A call whose body does not fit, one whose body fits, and one of a module that is not loaded. None of
them has a body. -/
def calls : List RecordedCall :=
  [⟨"pets", "get", "/api/v1/pets", 200, .null⟩, ⟨"pets", "GET", "/health?full", 204, .null⟩,
    ⟨"news", "GET", "/news", 200, .null⟩]

def text : String :=
  "[[\"pets\",\"get\",\"/api/v1/pets\",200],[\"pets\",\"GET\",\"/health?full\",204]," ++
    "[\"news\",\"GET\",\"/news\",200]]"

def files : FileSystem :=
  ⟨[(⟨"calls.json", by decide⟩, .file (text.toList.map Char.toNat))], []⟩

def index : ModuleIndex :=
  ((ModuleIndex.empty "pets" ⟨"/pets.yaml"⟩).insertResponse ⟨.get, "/pets", "200"⟩
    (.object [("type", .string "array")])).insertResponse ⟨.get, "/health", "default"⟩
      (.object [("type", .string "null")])

def registry : Registry := (Registry.empty .default).insert "pets" index

/-- The body `null` on the standard input. -/
def handover : Handover := ⟨files, [110, 117, 108, 108], none⟩

/-- What a call without a body says. -/
def heading? (call : RecordedCall) : Option (String × String × String × Nat) :=
  match call.body with
  | .null => some (call.module, call.method, call.path, call.status)
  | _ => none

/-- The heading of a call is all of it but its body. -/
theorem eq_of_heading? {call : RecordedCall} {module method path : String} {status : Nat}
    (said : heading? call = some (module, method, path, status)) :
    call = ⟨module, method, path, status, .null⟩ := by
  obtain ⟨_, _, _, _, body⟩ := call
  cases body <;> cases said
  rfl

theorem readText_calls : files.readText ⟨"/calls.json"⟩ = .ok text := by
  have found : files.node? ["calls.json"] = some (.file (text.toList.map Char.toNat)) := rfl
  have decoded : Text.decodeUtf8 (text.toList.map Char.toNat) = .ok text :=
    eq_ok_of_toOption (by decide +kernel)
  exact FileSystem.readText_pathOf (by decide) found decoded

theorem parse_text : parse text = .ok calls := by
  have read : (parse text).toOption.map (List.map heading?) = some (calls.map heading?) := by
    decide +kernel
  obtain ⟨found, parsed, same⟩ := Option.map_eq_some_iff.mp read
  simp only [calls, List.map_cons, List.map_nil, List.map_eq_cons_iff, List.map_eq_nil_iff] at same
  obtain ⟨first, _, rfl, one, second, _, rfl, two, third, _, rfl, three, rfl⟩ := same
  rw [eq_of_heading? one, eq_of_heading? two, eq_of_heading? three] at parsed
  exact eq_ok_of_toOption parsed

/-- A transcript with one call that does not fit fails under the label of that call, and every call is
counted. -/
theorem replay_lists_failed_call :
    load files ⟨"/calls.json"⟩ = .ok calls ∧ (∀ call ∈ calls, handover.Gives call.body) ∧
      (replay registry calls).total = 3 ∧
        (replay registry calls).failures.map (·.label) = ["pets: GET /api/v1/pets 200"] ∧
          (replay registry calls).skips.map (·.label) = ["news: GET /news 200"] ∧
            (Command.run files [] registry (.replay ⟨"/calls.json"⟩ true)).exitCode ≠ 0 := by
  have loaded : load files ⟨"/calls.json"⟩ = .ok calls := by
    simp only [load, readText_calls, parse_text]
  have gives : ∀ call ∈ calls, handover.Gives call.body := by
    have given : handover.Gives .null := by rfl
    simp only [calls, List.forall_mem_cons, given, List.not_mem_nil, false_implies, implies_true,
      and_self]
  obtain ⟨-, total, failures, skips, -, alone⟩ := replay_agrees_with_single_checks registry calls []
  refine ⟨loaded, gives, total, ?_, ?_, ?_⟩
  · rw [failures]
    rfl
  · rw [skips]
    rfl
  · rw [Ne, alone files [] ⟨"/calls.json"⟩ true (fun _ => handover) loaded gives]
    intro all
    have first := all _ (.head _)
    rw [handover.check_eq registry _ (gives _ (.head _)), Command.runCheckResponse,
      Report.exitCode_ofOutcome] at first
    cases first

end PetCalls

end ApiContract
