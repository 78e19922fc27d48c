import ApiContract.Check

/-
This file holds the outcomes of checking the bodies of calls.
-/

namespace ApiContract

/-- What came of one body: it fits, no schema covers it, or it does not fit. -/
inductive Outcome where
  | passed
  | skipped (message : String)
  | failed (message : String) (violations : List Violation)
  deriving DecidableEq, Repr

namespace Outcome

def isFailed : Outcome → Bool
  | failed _ _ => true
  | _ => false

def isSkipped : Outcome → Bool
  | skipped _ => true
  | _ => false

/-- A call that no schema covers does not count as a failure. -/
def isValid (outcome : Outcome) : Bool := !outcome.isFailed

def message? : Outcome → Option String
  | passed => none
  | skipped message => some message
  | failed message _ => some message

def violations : Outcome → List Violation
  | failed _ violations => violations
  | _ => []

def text : Outcome → String
  | passed => "passed"
  | skipped message => "skipped: " ++ message
  | failed message _ => "failed: " ++ message

/-- The outcome of checking a body against the schema that is stored under a key. -/
def ofCheck (schema body : Json) (key headline : String) : Outcome :=
  match check schema body with
  | .ok () => passed
  | .error (.violations list) =>
      failed (headline ++ " (" ++ key ++ "):\n" ++ Violation.lines list) list
  | .error fault => failed ("validation error (" ++ key ++ "): " ++ fault.message) []

end Outcome

end ApiContract
