/-
This file holds what can be wrong with the text of a stream, and where it is reported.
-/

namespace ApiContract.Yaml

/-- A place in a text: characters since the start, lines, and characters since the start of the
line, all from zero. -/
structure Mark where
  index : Nat
  line : Nat
  column : Nat
  deriving DecidableEq, Repr

namespace Mark

def start : Mark := ⟨0, 0, 0⟩

def isStart (mark : Mark) : Bool := mark.line == 0 && mark.column == 0

def samePlace (first second : Mark) : Bool :=
  first.line == second.line && first.column == second.column

def text (mark : Mark) : String :=
  "line " ++ toString (mark.line + 1) ++ " column " ++ toString (mark.column + 1)

/-- The place after a message; the very start is left out. -/
def suffix (mark : Mark) : String := if mark.isStart then "" else " at " ++ mark.text

end Mark

/-- What is wrong at a place. -/
inductive Problem where
  | unexpectedCharacter
  | misplacedEntry
  | misplacedKey
  | misplacedValue
  | missingColon
  | unknownDirective
  | missingDirectiveName
  | nonAlphabeticDirective
  | missingLineEnd
  | missingVersionPoint
  | longVersionNumber
  | missingVersionNumber
  | missingWhitespace
  | missingWhitespaceOrBreak
  | missingAnchorName
  | missingTagEnd
  | missingTagMark
  | missingTagUri
  | missingUriOctet
  | wrongLeadingOctet
  | wrongTrailingOctet
  | zeroIndentation
  | tabInIndentation
  | documentMarkInQuotes
  | endInQuotes
  | unknownEscape
  | missingHexNumber
  | invalidCodePoint
  | unexpectedColon
  | tabInPlain
  | missingDocumentStart
  | missingContent
  | undefinedTagHandle
  | missingDash
  | missingKey
  | missingCommaOrBracket
  | missingCommaOrBrace
  | repeatedVersion
  | incompatibleVersion
  | repeatedTagHandle
  deriving DecidableEq, Repr

def Problem.message : Problem → String
  | unexpectedCharacter => "found character that cannot start any token"
  | misplacedEntry => "block sequence entries are not allowed in this context"
  | misplacedKey => "mapping keys are not allowed in this context"
  | misplacedValue => "mapping values are not allowed in this context"
  | missingColon => "could not find expected ':'"
  | unknownDirective => "found unknown directive name"
  | missingDirectiveName => "could not find expected directive name"
  | nonAlphabeticDirective => "found unexpected non-alphabetical character"
  | missingLineEnd => "did not find expected comment or line break"
  | missingVersionPoint => "did not find expected digit or '.' character"
  | longVersionNumber => "found extremely long version number"
  | missingVersionNumber => "did not find expected version number"
  | missingWhitespace => "did not find expected whitespace"
  | missingWhitespaceOrBreak => "did not find expected whitespace or line break"
  | missingAnchorName => "did not find expected alphabetic or numeric character"
  | missingTagEnd => "did not find the expected '>'"
  | missingTagMark => "did not find expected '!'"
  | missingTagUri => "did not find expected tag URI"
  | missingUriOctet => "did not find URI escaped octet"
  | wrongLeadingOctet => "found an incorrect leading UTF-8 octet"
  | wrongTrailingOctet => "found an incorrect trailing UTF-8 octet"
  | zeroIndentation => "found an indentation indicator equal to 0"
  | tabInIndentation => "found a tab character where an indentation space is expected"
  | documentMarkInQuotes => "found unexpected document indicator"
  | endInQuotes => "found unexpected end of stream"
  | unknownEscape => "found unknown escape character"
  | missingHexNumber => "did not find expected hexadecimal number"
  | invalidCodePoint => "found invalid Unicode character escape code"
  | unexpectedColon => "found unexpected ':'"
  | tabInPlain => "found a tab character that violates indentation"
  | missingDocumentStart => "did not find expected <document start>"
  | missingContent => "did not find expected node content"
  | undefinedTagHandle => "found undefined tag handle"
  | missingDash => "did not find expected '-' indicator"
  | missingKey => "did not find expected key"
  | missingCommaOrBracket => "did not find expected ',' or ']'"
  | missingCommaOrBrace => "did not find expected ',' or '\x7d'"
  | repeatedVersion => "found duplicate %YAML directive"
  | incompatibleVersion => "found incompatible YAML document"
  | repeatedTagHandle => "found duplicate %TAG directive"

/-- What was being read when a problem was met. -/
inductive Activity where
  | nextToken
  | simpleKey
  | directive
  | versionDirective
  | tagDirective
  | tagDirectiveHandle
  | tagDirectiveEnd
  | tag
  | tagUri
  | anchor
  | aliasName
  | blockScalar
  | quotedScalar
  | quotedEscape
  | plainScalar
  | node
  | blockNode
  | flowNode
  | blockSequence
  | blockMapping
  | flowSequence
  | flowMapping
  deriving DecidableEq, Repr

def Activity.message : Activity → String
  | nextToken => "while scanning for the next token"
  | simpleKey => "while scanning a simple key"
  | directive => "while scanning a directive"
  | versionDirective => "while scanning a %YAML directive"
  | tagDirective => "while scanning a %TAG directive"
  | tagDirectiveHandle => "while scanning a tag directive"
  | tagDirectiveEnd => "while parsing a tag directive"
  | tag => "while scanning a tag"
  | tagUri => "while parsing a tag"
  | anchor => "while scanning an anchor"
  | aliasName => "while scanning an alias"
  | blockScalar => "while scanning a block scalar"
  | quotedScalar => "while scanning a quoted scalar"
  | quotedEscape => "while parsing a quoted scalar"
  | plainScalar => "while scanning a plain scalar"
  | node => "while parsing a node"
  | blockNode => "while parsing a block node"
  | flowNode => "while parsing a flow node"
  | blockSequence => "while parsing a block collection"
  | blockMapping => "while parsing a block mapping"
  | flowSequence => "while parsing a flow sequence"
  | flowMapping => "while parsing a flow mapping"

/-- Why a stream cannot be read. -/
inductive Fault where
  | forbiddenCharacter (offset : Nat)
  | at (problem : Problem) (mark : Mark) (context : Option (Activity × Mark))
  deriving DecidableEq, Repr

/-- The message of a fault. The place of the context is left out where it is that of the problem. -/
def Fault.message : Fault → String
  | forbiddenCharacter offset =>
      "control characters are not allowed" ++
        (if offset = 0 then "" else " at position " ++ toString offset)
  | .at problem mark none => problem.message ++ mark.suffix
  | .at problem mark (some (activity, start)) =>
      problem.message ++ mark.suffix ++ ", " ++ activity.message ++
        (if start.samePlace mark then "" else start.suffix)

end ApiContract.Yaml
