import ApiContract.Yaml.Directive
import ApiContract.Yaml.Scalar.Block
import ApiContract.Yaml.Scalar.Plain
import ApiContract.Yaml.Scalar.Quoted

/-
This file takes tokens from a text one after another. Whether a token starts a key is known only
when its colon is found, so tokens that may start a key wait in a queue.
-/

namespace ApiContract.Yaml

/-- A place where a key may have started: the number of its first token, and whether a colon has to
follow. -/
structure KeyCandidate where
  tokenNumber : Nat
  required : Bool
  mark : Mark
  deriving DecidableEq, Repr

/-- The rest of a text, the tokens that wait, and the collections that are open. The lists start
with the innermost collection. -/
structure TokenSource where
  cursor : Cursor
  started : Bool
  queue : List Token
  taken : Nat
  indent : Int
  outerIndents : List Int
  keyAllowed : Bool
  candidates : List (Option KeyCandidate)

namespace TokenSource

def ofCursor (cursor : Cursor) : TokenSource := ⟨cursor, false, [], 0, -1, [], true, [none]⟩

/-- Whether a flow collection is open. -/
def inFlow (source : TokenSource) : Bool := 1 < source.candidates.length

def enqueue (source : TokenSource) (kind : TokenKind) (mark : Mark) : TokenSource :=
  { source with queue := source.queue ++ [⟨kind, mark⟩] }

/-- Puts a token before the one with a number. -/
def insertAt (source : TokenSource) (number : Nat) (kind : TokenKind) (mark : Mark) :
    TokenSource :=
  let position := number - source.taken
  { source with
    queue := source.queue.take position ++ [⟨kind, mark⟩] ++ source.queue.drop position }

def setCandidate (source : TokenSource) (candidate : Option KeyCandidate) : TokenSource :=
  { source with candidates := candidate :: source.candidates.drop 1 }

def missingColon {α : Type} (source : TokenSource) (candidate : KeyCandidate) : Except Fault α :=
  source.cursor.failIn .simpleKey candidate.mark .missingColon

/-- Gives up the candidate of the innermost collection. -/
def dropCandidate (source : TokenSource) : Except Fault TokenSource :=
  match source.candidates.head? with
  | some (some candidate) =>
      if candidate.required then source.missingColon candidate else .ok (source.setCandidate none)
  | _ => .ok (source.setCandidate none)

/-- Makes the next token a candidate, where a key may start. -/
def saveCandidate (source : TokenSource) : Except Fault TokenSource :=
  if !source.keyAllowed then .ok source
  else do
    let mark := source.cursor.mark
    let required := !source.inFlow && source.indent == (mark.column : Int)
    let candidate : KeyCandidate := ⟨source.taken + source.queue.length, required, mark⟩
    return (← source.dropCandidate).setCandidate (some candidate)

/-- The greatest number of characters of a key before its colon. -/
def greatestKeyLength : Nat := 1024

/-- Whether a candidate can no longer be a key at a place. -/
def isStale (place : Mark) (candidate : KeyCandidate) : Bool :=
  candidate.mark.line < place.line || candidate.mark.index + greatestKeyLength < place.index

/-- Gives up candidates that can no longer be keys. The outermost of them is reported first. -/
def dropStale (source : TokenSource) : Except Fault TokenSource :=
  let stale := source.candidates.reverse.filterMap fun candidate =>
    candidate.filter (isStale source.cursor.mark)
  match stale.find? (·.required) with
  | some candidate => source.missingColon candidate
  | none =>
      .ok { source with
        candidates := source.candidates.map fun candidate =>
          candidate.filter fun held => !isStale source.cursor.mark held }

/-- Opens a block collection where a column lies inside the current one. -/
def openBlock (source : TokenSource) (mark : Mark) (number : Option Nat) (kind : TokenKind) :
    TokenSource :=
  if source.inFlow ∨ (mark.column : Int) ≤ source.indent then source
  else
    let opened :=
      { source with
        indent := mark.column, outerIndents := source.indent :: source.outerIndents }
    match number with
    | some number => opened.insertAt number kind mark
    | none => opened.enqueue kind mark

/-- Closes the block collections that a column lies left of. -/
def closeBlocks (column current : Int) (place : Mark) (source : TokenSource) :
    List Int → TokenSource
  | [] => source
  | outer :: rest =>
      if current ≤ column then source
      else
        closeBlocks column outer place
          { source.enqueue .blockEnd place with indent := outer, outerIndents := rest } rest

def closeBlocksTo (source : TokenSource) (column : Int) : TokenSource :=
  if source.inFlow then source
  else closeBlocks column source.indent source.cursor.mark source source.outerIndents

def withCursor (source : TokenSource) (cursor : Cursor) : TokenSource :=
  { source with cursor := cursor }

def allowKey (source : TokenSource) (allowed : Bool) : TokenSource :=
  { source with keyAllowed := allowed }

/-- Enqueues a token of some characters and steps over them. -/
def take (source : TokenSource) (count : Nat) (kind : TokenKind) : TokenSource :=
  (source.enqueue kind source.cursor.mark).withCursor (source.cursor.skipMany count)

/-- Steps over spaces, comments and breaks. A tab is skipped only where no key may start. -/
def skipGap : Nat → TokenSource → TokenSource
  | 0, source => source
  | fuel + 1, source =>
      let start := source.cursor
      let cursor := if start.mark.column == 0 && start.lookingAt '\ufeff' then start.skip else start
      let cursor := cursor.skipWhile fun character =>
        character == ' ' || ((source.inFlow || !source.keyAllowed) && character == '\t')
      let cursor := cursor.skipComment
      if cursor.test isBreak then
        skipGap fuel
          ((source.withCursor cursor.skipLine).allowKey (source.keyAllowed || !source.inFlow))
      else source.withCursor cursor

def fetchStreamEnd (source : TokenSource) : Except Fault TokenSource := do
  let mark := source.cursor.mark
  let place := if mark.column = 0 then mark else ⟨mark.index, mark.line + 1, 0⟩
  let source := (source.withCursor { source.cursor with mark := place }).closeBlocksTo (-1)
  return ((← source.dropCandidate).allowKey false).enqueue .streamEnd place

def fetchDirective (source : TokenSource) : Except Fault TokenSource := do
  let source := (← (source.closeBlocksTo (-1)).dropCandidate).allowKey false
  let (kind, cursor) ← Directive.read source.cursor
  return (source.enqueue kind source.cursor.mark).withCursor cursor

def fetchDocumentMark (source : TokenSource) (kind : TokenKind) : Except Fault TokenSource := do
  return ((← (source.closeBlocksTo (-1)).dropCandidate).allowKey false).take 3 kind

def fetchFlowStart (source : TokenSource) (kind : TokenKind) : Except Fault TokenSource := do
  let source ← source.saveCandidate
  return ({ source with candidates := none :: source.candidates }.allowKey true).take 1 kind

def fetchFlowEnd (source : TokenSource) (kind : TokenKind) : Except Fault TokenSource := do
  let source ← source.dropCandidate
  let candidates := if source.inFlow then source.candidates.drop 1 else source.candidates
  return ({ source with candidates := candidates }.allowKey false).take 1 kind

def fetchFlowEntry (source : TokenSource) : Except Fault TokenSource := do
  return ((← source.dropCandidate).allowKey true).take 1 .flowEntry

def fetchBlockEntry (source : TokenSource) : Except Fault TokenSource := do
  let mark := source.cursor.mark
  if !source.inFlow && !source.keyAllowed then source.cursor.fail .misplacedEntry
  else
    let source := source.openBlock mark none .blockSequenceStart
    return ((← source.dropCandidate).allowKey true).take 1 .blockEntry

def fetchKey (source : TokenSource) : Except Fault TokenSource := do
  let mark := source.cursor.mark
  if !source.inFlow && !source.keyAllowed then source.cursor.fail .misplacedKey
  else
    let source := source.openBlock mark none .blockMappingStart
    return ((← source.dropCandidate).allowKey !source.inFlow).take 1 .key

def fetchValue (source : TokenSource) : Except Fault TokenSource := do
  match source.candidates.head? with
  | some (some candidate) =>
      let source := source.insertAt candidate.tokenNumber .key candidate.mark
      let source :=
        source.openBlock candidate.mark (some candidate.tokenNumber) .blockMappingStart
      return ((source.setCandidate none).allowKey false).take 1 .value
  | _ =>
      let mark := source.cursor.mark
      if !source.inFlow && !source.keyAllowed then source.cursor.fail .misplacedValue
      else
        let source := source.openBlock mark none .blockMappingStart
        return (source.allowKey !source.inFlow).take 1 .value

def fetchAlias (source : TokenSource) : Except Fault TokenSource := do
  let source := (← source.saveCandidate).allowKey false
  let (name, cursor) ← readAnchorName .aliasName source.cursor
  return (source.enqueue (.aliasTo name) source.cursor.mark).withCursor cursor

def fetchAnchor (source : TokenSource) : Except Fault TokenSource := do
  let source := (← source.saveCandidate).allowKey false
  let (name, cursor) ← readAnchorName .anchor source.cursor
  return (source.enqueue (.anchor name) source.cursor.mark).withCursor cursor

def fetchTag (source : TokenSource) : Except Fault TokenSource := do
  let source := (← source.saveCandidate).allowKey false
  let (handle, suffix, cursor) ← Tag.read source.inFlow source.cursor
  return (source.enqueue (.tag handle suffix) source.cursor.mark).withCursor cursor

def fetchBlockScalar (source : TokenSource) (literal : Bool) : Except Fault TokenSource := do
  let source := (← source.dropCandidate).allowKey true
  let (text, cursor) ← Block.read literal source.indent source.cursor
  return (source.enqueue (.scalar text false) source.cursor.mark).withCursor cursor

def fetchQuoted (source : TokenSource) (single : Bool) : Except Fault TokenSource := do
  let source := (← source.saveCandidate).allowKey false
  let (text, cursor) ← Quoted.read single source.cursor
  return (source.enqueue (.scalar text false) source.cursor.mark).withCursor cursor

def fetchPlain (source : TokenSource) : Except Fault TokenSource := do
  let source := (← source.saveCandidate).allowKey false
  let (text, broken, cursor) ← Plain.read source.inFlow (source.indent + 1) source.cursor
  return ((source.enqueue (.scalar text true) source.cursor.mark).withCursor cursor).allowKey broken

/-- Whether a plain scalar can start with a character. -/
def startsPlain (source : TokenSource) (character : Char) : Bool :=
  let next := source.cursor.rest[1]?
  match character with
  | '-' => !next.any isBlank
  | '?' | ':' => !source.inFlow && next.any fun other => !Cursor.isBlankOrBreak other
  | other => !Cursor.isBlankOrBreak other && !"?,[]\x7b\x7d#&*!|>'\"%@\x60".toList.contains other

/-- Fetches the token that starts at a character. -/
def fetchAt (source : TokenSource) (character : Char) : Except Fault TokenSource :=
  let gapNext := source.cursor.isGapAhead 1
  let marksPair := source.inFlow || gapNext
  if source.cursor.mark.column = 0 ∧ character = '%' then source.fetchDirective
  else if source.cursor.atTriple '-' then source.fetchDocumentMark .documentStart
  else if source.cursor.atTriple '.' then source.fetchDocumentMark .documentEnd
  else if character = '[' then source.fetchFlowStart .flowSequenceStart
  else if character = '\x7b' then source.fetchFlowStart .flowMappingStart
  else if character = ']' then source.fetchFlowEnd .flowSequenceEnd
  else if character = '\x7d' then source.fetchFlowEnd .flowMappingEnd
  else if character = ',' then source.fetchFlowEntry
  else if character = '-' ∧ gapNext then source.fetchBlockEntry
  else if character = '?' ∧ marksPair then source.fetchKey
  else if character = ':' ∧ marksPair then source.fetchValue
  else if character = '*' then source.fetchAlias
  else if character = '&' then source.fetchAnchor
  else if character = '!' then source.fetchTag
  else if character = '|' ∧ !source.inFlow then source.fetchBlockScalar true
  else if character = '>' ∧ !source.inFlow then source.fetchBlockScalar false
  else if character = '\'' then source.fetchQuoted true
  else if character = '"' then source.fetchQuoted false
  else if source.startsPlain character then source.fetchPlain
  else source.cursor.failIn .nextToken source.cursor.mark .unexpectedCharacter

/-- Fetches at least one more token. -/
def fetch (source : TokenSource) : Except Fault TokenSource :=
  if !source.started then
    .ok { source.enqueue .streamStart source.cursor.mark with started := true }
  else do
    let source ← (skipGap (source.cursor.rest.length + 1) source).dropStale
    let source := source.closeBlocksTo source.cursor.mark.column
    match source.cursor.rest with
    | [] => source.fetchStreamEnd
    | character :: _ => source.fetchAt character

/-- Whether the first token that waits may still become a key. -/
def waits (source : TokenSource) : Bool :=
  source.queue.isEmpty || source.candidates.any fun candidate =>
    candidate.any fun held => held.tokenNumber == source.taken

/-- Fetches tokens until the first one is settled. The number bounds the fetches. -/
def settle : Nat → TokenSource → Except Fault TokenSource
  | 0, source => .ok source
  | fuel + 1, source => do
      let source ← if source.queue.isEmpty then pure source else source.dropStale
      if source.waits then settle fuel (← source.fetch) else return source

/-- The next token, which stays in the queue. -/
def peek (source : TokenSource) : Except Fault (Token × TokenSource) := do
  let source ← settle (source.cursor.rest.length + 3) source
  match source.queue with
  | token :: _ => return (token, source)
  | [] => return (⟨.streamEnd, source.cursor.mark⟩, source)

/-- The source after its first token. -/
def drop (source : TokenSource) : TokenSource :=
  { source with queue := source.queue.drop 1, taken := source.taken + 1 }

end TokenSource

end ApiContract.Yaml
