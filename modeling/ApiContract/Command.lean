import ApiContract.Body
import ApiContract.Command.Arguments
import ApiContract.Transcript

/-
This file runs commands. A run reads files and the standard input, and leaves a report: the text it
prints and the code it exits with.
-/

namespace ApiContract

/-- What a run leaves. A complaint is not part of the output. -/
structure Report where
  output : String
  exitCode : Nat
  complaint : Option String
  deriving DecidableEq, Repr

namespace Report

def printed (output : String) (succeeded : Bool) : Report :=
  ⟨output, if succeeded then 0 else 1, none⟩

/-- A run that could not answer. -/
def failed (complaint : String) : Report := ⟨"", 1, some complaint⟩

/-- A run that could not start. -/
def refused (complaint : String) : Report := ⟨"", 2, some complaint⟩

/-- The report on the outcome of one call. -/
def ofOutcome (label : String) (outcome : Outcome) : Report :=
  match outcome with
  | .passed => printed ("ok: " ++ label ++ "\n") true
  | .skipped message => printed ("skipped: " ++ label ++ "\n  " ++ message ++ "\n") true
  | .failed message _ => printed ("FAILED: " ++ label ++ "\n" ++ message ++ "\n") false

end Report

namespace Command

/-- Lists the keys of schemas. It succeeds if the module, or any module at all, is loaded. -/
def runSchemas (registry : Registry) (module : Option String) : Report :=
  let isLoaded :=
    match module with
    | some name => (registry.module? name).isSome
    | none => !registry.modules.isEmpty
  .printed (registry.listing module) isLoaded

/-- Prints a schema. -/
def runShow (registry : Registry) (module key : String) : Report :=
  if (registry.module? module).isNone then
    .failed ("module '" ++ module ++ "' has no loaded specification under " ++
      registry.config.specDirectory.text)
  else
    match registry.schema? module key with
    | some schema => .printed (schema.pretty ++ "\n") true
    | none =>
        .failed ("no schema '" ++ key ++ "' in module '" ++ module ++
          "' (run \x60apicheck schemas " ++ module ++ "\x60 to list keys)")

/-- Checks a response with a body. -/
def runCheckResponse (registry : Registry) (call : RecordedCall) : Report :=
  .ofOutcome call.label
    (registry.checkResponse call.module call.method call.path call.status call.body)

/-- Checks a request with a body. -/
def runCheckRequest (registry : Registry) (module operation : String) (body : Json) : Report :=
  .ofOutcome (module ++ ": " ++ operation ++ " request")
    (registry.checkRequest module operation body)

/-- Checks the calls of a transcript. -/
def runReplay (registry : Registry) (calls : List RecordedCall) (each : Bool) : Report :=
  let lines :=
    if each then
      (Transcript.outcomes registry calls).map fun (label, outcome) =>
        label ++ ": " ++ outcome.text ++ "\n"
    else []
  let summary := Transcript.replay registry calls
  .printed (String.join lines ++ summary.report) summary.isClean

/-- Runs a command with a registry. -/
def run (files : FileSystem) (input : List Nat) (registry : Registry) : Command → Report
  | schemas module => runSchemas registry module
  | showSchema module key => runShow registry module key
  | checkResponse module method path status body =>
      match (BodySource.ofOption body).read files input with
      | .error error => .failed error.message
      | .ok body => runCheckResponse registry ⟨module, method, path, status, body⟩
  | checkRequest module operation body =>
      match (BodySource.ofOption body).read files input with
      | .error error => .failed error.message
      | .ok body => runCheckRequest registry module operation body
  | replay transcript each =>
      match Transcript.load files transcript with
      | .error error => .failed error.message
      | .ok calls => runReplay registry calls each

end Command

namespace Request

def programName : String := "apicheck"

def versionText : String := "0.1.0"

def usage : String :=
  String.join
    ((["Checks the bodies of calls against specifications.", "",
      "Usage: " ++ programName ++ " [OPTIONS] COMMAND", "", "Commands:",
      "  schemas [MODULE]", "  show MODULE KEY",
      "  check-response MODULE METHOD PATH STATUS [--body FILE]",
      "  check-request MODULE OPERATION [--body FILE]", "  replay TRANSCRIPT [--each]", "",
      "Options:", "  --config FILE", "  --spec-dir DIRECTORY", "  --api-prefix TEXT",
      "  -v, --verbose", "  -V, --version", "  -h, --help"] : List String).map (· ++ "\n"))

/-- Does what a command line asks for. -/
def run (files : FileSystem) (environment : Environment) (input : List Nat) : Request → Report
  | version => .printed (programName ++ " " ++ versionText ++ "\n") true
  | help => .printed usage true
  | perform flags command =>
      match Config.settle files flags environment with
      | .error error => .refused error.message
      | .ok config => command.run files input (Registry.load files config)

/-- The report on a command line that is malformed. -/
def malformed : Report := .refused ("the arguments are malformed\n\n" ++ usage)

/-- Runs the program with arguments. -/
def runArguments (files : FileSystem) (environment : Environment) (input : List Nat)
    (arguments : List String) : Report :=
  (ofArguments? arguments).elim malformed fun request => request.run files environment input

/-- Whether a run reads the standard input. -/
def readsInput : Request → Bool
  | perform _ (.checkResponse _ _ _ _ body) => BodySource.ofOption body == .standardInput
  | perform _ (.checkRequest _ _ body) => BodySource.ofOption body == .standardInput
  | _ => false

end Request

end ApiContract
