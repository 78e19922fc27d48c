import ApiContract.Pattern.Extended.Search
import ApiContract.Pattern.Source

/-
This file holds the patterns of schemas. A pattern that the plain grammar can express is an
automaton, and any other one a program for a backtracking search.
-/

namespace ApiContract

/-- A pattern that is ready for matching. -/
inductive Pattern where
  | plain (automaton : Pattern.Plain.Automaton)
  | extended (program : Pattern.Extended.Program)

namespace Pattern

/-- The pattern of a text; `none` if the text has no meaning as a pattern. -/
def compile? (text : String) : Option Pattern := do
  let source ← source? text
  let parsed ← Extended.parse source
  if parsed.isHard then return .extended (← parsed.program?)
  else return .plain (← Plain.compile? (parsed.expression.source 0))

/-- Whether a pattern matches somewhere in a text, or why the search gives up. -/
def test (pattern : Pattern) (text : String) : Except Extended.SearchFault Bool :=
  let characters := text.toList.toArray
  match pattern with
  | plain automaton => .ok (automaton.isMatch characters)
  | extended program => program.isMatch characters

/-- Whether a pattern matches somewhere in a text; it does not if the search gives up. -/
def isMatch (pattern : Pattern) (text : String) : Bool :=
  match pattern.test text with
  | .ok found => found
  | .error _ => false

end Pattern

end ApiContract
