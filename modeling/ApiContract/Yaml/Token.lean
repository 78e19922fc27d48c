import ApiContract.Yaml.Cursor

/-
This file holds the tokens of a stream.
-/

namespace ApiContract.Yaml

inductive TokenKind where
  | streamStart
  | streamEnd
  | versionDirective (major minor : Nat)
  | tagDirective (handle replacement : String)
  | documentStart
  | documentEnd
  | blockSequenceStart
  | blockMappingStart
  | blockEnd
  | flowSequenceStart
  | flowSequenceEnd
  | flowMappingStart
  | flowMappingEnd
  | blockEntry
  | flowEntry
  | key
  | value
  | aliasTo (name : String)
  | anchor (name : String)
  | tag (handle suffix : String)
  | scalar (text : String) (plain : Bool)
  deriving DecidableEq, Repr

/-- A token and the place where it starts. -/
structure Token where
  kind : TokenKind
  mark : Mark
  deriving DecidableEq, Repr

end ApiContract.Yaml
