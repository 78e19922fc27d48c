import ApiContract.Config

/-
This file reads the arguments of the command line: options, the name of a command, and its operands.
Options about the configuration may stand before the name of the command and after it.
-/

namespace ApiContract

/-- What the program is asked to do. -/
inductive Command where
  | schemas (module : Option String)
  | showSchema (module key : String)
  | checkResponse (module method path : String) (status : Nat) (body : Option Path)
  | checkRequest (module operation : String) (body : Option Path)
  | replay (transcript : Path) (each : Bool)
  deriving DecidableEq, Repr

/-- What a command line asks for. -/
inductive Request where
  | perform (flags : ConfigFlags) (command : Command)
  | version
  | help

namespace Command

/-- The names of commands. -/
inductive Name where
  | schemas
  | showSchema
  | checkResponse
  | checkRequest
  | replay
  deriving DecidableEq, Repr

def Name.text : Name → String
  | schemas => "schemas"
  | showSchema => "show"
  | checkResponse => "check-response"
  | checkRequest => "check-request"
  | replay => "replay"

def Name.ofString? (text : String) : Option Name :=
  [Name.schemas, .showSchema, .checkResponse, .checkRequest, .replay].find? fun name =>
    name.text == text

/-- What an operand or the value of an option has to be. -/
inductive ValueKind where
  | text
  | path
  | status
  deriving DecidableEq, Repr

def greatestStatus : Nat := 65535

/-- Reads a status: decimal digits that may have a sign. -/
def status? (text : String) : Option Nat :=
  let value :=
    match Text.stripStart "-" text with
    | none => Text.unsigned? text
    | some digits =>
        if Text.startsWith digits "+" then none else (Text.unsigned? digits).filter (· == 0)
  value.filter (· ≤ greatestStatus)

/-- Whether a text is a value of a kind. The empty text is no path. -/
def ValueKind.accepts (kind : ValueKind) (text : String) : Bool :=
  match kind with
  | .text => true
  | .path => !text.isEmpty
  | .status => (status? text).isSome

/-- The options. -/
inductive Flag where
  | verbose
  | config
  | specDirectory
  | apiPrefix
  | body
  | each
  | version
  | help
  deriving DecidableEq, Repr

namespace Flag

def name : Flag → String
  | verbose => "verbose"
  | config => "config"
  | specDirectory => "spec-dir"
  | apiPrefix => "api-prefix"
  | body => "body"
  | each => "each"
  | version => "version"
  | help => "help"

def letter? : Flag → Option Char
  | verbose => some 'v'
  | version => some 'V'
  | help => some 'h'
  | _ => none

/-- The kind of the value of an option; some options have none. -/
def valueKind? : Flag → Option ValueKind
  | config => some .path
  | specDirectory => some .path
  | apiPrefix => some .text
  | body => some .path
  | _ => none

end Flag

/-- The options that may stand before the name of a command, or after a given one. -/
def flagsOf : Option Name → List Flag
  | none => [.verbose, .config, .specDirectory, .apiPrefix, .version, .help]
  | some name =>
      let common := [Flag.verbose, .config, .specDirectory, .apiPrefix, .help]
      match name with
      | .checkResponse => .body :: common
      | .checkRequest => .body :: common
      | .replay => .each :: common
      | _ => common

/-- The most operands that a command takes. -/
def operandsOf : Name → List ValueKind
  | .schemas => [.text]
  | .showSchema => [.text, .text]
  | .checkResponse => [.text, .text, .text, .status]
  | .checkRequest => [.text, .text]
  | .replay => [.path]

/-- An argument by its shape. -/
inductive Argument where
  | separator
  | long (name : String) (value : Option String)
  | letters (letters : List Char)
  | plain (text : String)
  deriving DecidableEq, Repr

/-- A single dash is a plain text. -/
def Argument.ofString (text : String) : Argument :=
  match text.toList with
  | ['-', '-'] => separator
  | '-' :: '-' :: rest =>
      match Text.splitOnce '=' (String.ofList rest) with
      | some (name, value) => long name (some value)
      | none => long (String.ofList rest) none
  | '-' :: letter :: rest => letters (letter :: rest)
  | _ => plain text

/-- What was read of a command line. The outer options stand before the name of the command. -/
structure Given where
  command : Option Name
  outer : List (Flag × String)
  flags : List (Flag × String)
  operands : List String

/-- Why the reading of a command line stops. -/
inductive Stop where
  | refused
  | version
  | help
  deriving DecidableEq, Repr

namespace Given

def start : Given := ⟨none, [], [], []⟩

/-- Adds an option. Only the verbosity may be given twice at one place. -/
def addFlag (given : Given) (flag : Flag) (value : String) : Except Stop Given :=
  if !(flag.valueKind?.all fun kind => kind.accepts value) then .error .refused
  else
    match flag with
    | .version => .error .version
    | .help => .error .help
    | .verbose => .ok given
    | flag =>
        if (given.flags.lookup flag).isSome then .error .refused
        else .ok { given with flags := (flag, value) :: given.flags }

/-- Adds an operand. -/
def addOperand (given : Given) (text : String) : Except Stop Given :=
  match given.command with
  | none => .error .refused
  | some name =>
      match (operandsOf name)[given.operands.length]? with
      | none => .error .refused
      | some kind =>
          if kind.accepts text then .ok { given with operands := given.operands ++ [text] }
          else .error .refused

/-- Adds options that are given by their letters. -/
def addLetters (given : Given) : List Char → Except Stop Given
  | [] => .ok given
  | letter :: rest =>
      match (flagsOf given.command).find? fun flag => flag.letter? == some letter with
      | none => .error .refused
      | some flag => do addLetters (← given.addFlag flag "") rest

def enter (given : Given) (name : Name) : Given :=
  { given with command := some name, outer := given.flags, flags := [] }

/-- The value of an option. One after the name of the command wins over one before it. -/
def value? (given : Given) (flag : Flag) : Option String :=
  given.flags.lookup flag <|> given.outer.lookup flag

end Given

/-- The name of the command that shows the usage. -/
def helpName : String := "help"

/-- What a command line stops with that asks for the usage of some commands. -/
def helpStop : List String → Stop
  | [] => .help
  | [name] => if name = helpName || (Name.ofString? name).isSome then .help else .refused
  | _ => .refused

/-- Reads arguments one after another. -/
def readArguments (given : Given) : List String → Except Stop Given
  | [] => .ok given
  | argument :: rest =>
      match Argument.ofString argument with
      | .separator => rest.foldlM Given.addOperand given
      | .letters letters => do readArguments (← given.addLetters letters) rest
      | .plain text =>
          match given.command with
          | some _ => do readArguments (← given.addOperand text) rest
          | none =>
              match Name.ofString? text with
              | some name => readArguments (given.enter name) rest
              | none => .error (if text = helpName then helpStop rest else .refused)
      | .long name value =>
          match (flagsOf given.command).find? fun flag => flag.name == name with
          | none => .error .refused
          | some flag =>
              match flag.valueKind?, value with
              | none, none => do readArguments (← given.addFlag flag "") rest
              | none, some _ => .error .refused
              | some _, some value => do readArguments (← given.addFlag flag value) rest
              | some _, none =>
                  match rest with
                  | [] => .error .refused
                  | next :: rest =>
                      match Argument.ofString next with
                      | .plain value => do readArguments (← given.addFlag flag value) rest
                      | _ => .error .refused

/-- The command that was read, if its operands are complete. -/
def ofGiven? (given : Given) : Option Command :=
  let body := (given.value? .body).map Path.mk
  match given.command, given.operands with
  | some .schemas, [] => some (schemas none)
  | some .schemas, [module] => some (schemas (some module))
  | some .showSchema, [module, key] => some (showSchema module key)
  | some .checkResponse, [module, method, path, status] =>
      (status? status).map fun status => checkResponse module method path status body
  | some .checkRequest, [module, operation] => some (checkRequest module operation body)
  | some .replay, [transcript] => some (replay ⟨transcript⟩ (given.value? .each).isSome)
  | _, _ => none

def configFlags (given : Given) : ConfigFlags :=
  ⟨(given.value? .config).map Path.mk, (given.value? .specDirectory).map Path.mk,
    given.value? .apiPrefix⟩

end Command

/-- Reads a command line; one that is malformed asks for nothing. -/
def Request.ofArguments? (arguments : List String) : Option Request :=
  match Command.readArguments .start arguments with
  | .error .version => some .version
  | .error .help => some .help
  | .error .refused => none
  | .ok given => (Command.ofGiven? given).map (.perform (Command.configFlags given))

end ApiContract
