import ApiContract.Document

/-
This file reads the bodies of calls, from files and from the standard input.
-/

namespace ApiContract

/-- Where a body lies. -/
inductive BodySource where
  | standardInput
  | file (path : Path)
  deriving DecidableEq, Repr

/-- The source that an option names. A dash, and no option at all, mean the standard input. -/
def BodySource.ofOption : Option Path → BodySource
  | none => standardInput
  | some path => if path.same ⟨"-"⟩ then standardInput else file path

/-- Why there is no body. -/
inductive BodyError where
  | unreadableInput
  | malformedInput (error : Json.ReadError)
  | unreadableFile (path : Path) (fault : FileFault)
  | malformedFile (path : Path) (error : Json.ReadError)

def BodyError.message : BodyError → String
  | unreadableInput => "failed to read body from stdin: " ++ FileFault.notUtf8.message
  | malformedInput error => "stdin is not valid JSON: " ++ error.message
  | unreadableFile path fault => "failed to read body file: " ++ path.text ++ ": " ++ fault.message
  | malformedFile path error =>
      "body file is not valid JSON: " ++ path.text ++ ": " ++ error.message

namespace BodySource

/-- Reads a body. The bytes are those of the standard input. -/
def read (files : FileSystem) (input : List Nat) : BodySource → Except BodyError Json
  | standardInput =>
      match Text.decodeUtf8 input with
      | .error _ => .error .unreadableInput
      | .ok text =>
          match Json.parse text with
          | .error error => .error (.malformedInput error)
          | .ok body => .ok body
  | file path =>
      match files.readText path with
      | .error fault => .error (.unreadableFile path fault)
      | .ok text =>
          match Json.parse text with
          | .error error => .error (.malformedFile path error)
          | .ok body => .ok body

end BodySource

end ApiContract
