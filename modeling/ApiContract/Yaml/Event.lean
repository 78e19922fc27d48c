import ApiContract.Yaml.TokenSource

/-
This file reads events, which tell where nodes start and end. The reader of events expects one thing
at a time, and keeps what it expects after that on a stack.
-/

namespace ApiContract.Yaml

/-- What an event tells. An anchor and a tag belong to the node that starts. -/
inductive EventKind where
  | streamEnd
  | documentStart
  | documentEnd
  | aliasTo (name : String)
  | scalar (anchor tag : Option String) (text : String) (plain : Bool)
  | sequenceStart (anchor tag : Option String)
  | sequenceEnd
  | mappingStart (anchor tag : Option String)
  | mappingEnd
  deriving DecidableEq, Repr

structure Event where
  kind : EventKind
  mark : Mark
  deriving DecidableEq, Repr

/-- What is expected next. -/
inductive Expected where
  | streamStart
  | documentStart (implicit : Bool)
  | documentContent
  | documentEnd
  | blockNode
  | blockEntry (isFirst : Bool)
  | plainEntry
  | blockKey (isFirst : Bool)
  | blockValue
  | flowItem (isFirst : Bool)
  | pairKey
  | pairValue
  | pairEnd
  | flowKey (isFirst : Bool)
  | flowValue
  | flowNoValue
  deriving DecidableEq, Repr

/-- The tokens that remain, what is expected of them, where the open collections started, and the
replacements of tag handles. -/
structure EventSource where
  tokens : TokenSource
  expected : Expected
  later : List Expected
  starts : List Mark
  handles : List (String × String)

namespace EventSource

def ofCursor (cursor : Cursor) : EventSource := ⟨.ofCursor cursor, .streamStart, [], [], []⟩

/-- The next token, which stays. -/
def peek (source : EventSource) : Except Fault (Token × EventSource) := do
  let (token, tokens) ← source.tokens.peek
  return (token, { source with tokens := tokens })

def drop (source : EventSource) : EventSource := { source with tokens := source.tokens.drop }

def expect (source : EventSource) (expected : Expected) : EventSource :=
  { source with expected := expected }

def push (source : EventSource) (expected : Expected) : EventSource :=
  { source with later := expected :: source.later }

/-- Goes on with what was put off. -/
def resume (source : EventSource) : EventSource :=
  match source.later with
  | [] => source
  | expected :: later => { source with expected := expected, later := later }

def openAt (source : EventSource) (mark : Mark) : EventSource :=
  { source with starts := mark :: source.starts }

/-- Ends a collection. -/
def close (source : EventSource) : EventSource :=
  { source.resume with starts := source.starts.drop 1 }

def failAt {α : Type} (mark : Mark) (problem : Problem) : Except Fault α :=
  .error (.at problem mark none)

def failFrom {α : Type} (mark : Mark) (problem : Problem) (activity : Activity) (start : Mark) :
    Except Fault α :=
  .error (.at problem mark (some (activity, start)))

/-- A problem inside the innermost collection. -/
def failInside {α : Type} (source : EventSource) (token : Token) (problem : Problem)
    (activity : Activity) : Except Fault α :=
  failFrom token.mark problem activity (source.starts.head?.getD .start)

/-- An empty scalar in place of a missing node. -/
def emptyScalar (mark : Mark) : Event := ⟨.scalar none none "" true, mark⟩

def defaultHandles : List (String × String) := [("!", "!"), ("!!", "tag:yaml.org,2002:")]

/-- Reads the directives of a document. The number bounds them. -/
def readDirectives : Nat → Bool → EventSource → Except Fault EventSource
  | 0, _, source => .ok source
  | fuel + 1, hasVersion, source => do
      let (token, source) ← source.peek
      match token.kind with
      | .versionDirective major minor =>
          if hasVersion then failAt token.mark .repeatedVersion
          else if major ≠ 1 ∨ (minor ≠ 1 ∧ minor ≠ 2) then failAt token.mark .incompatibleVersion
          else readDirectives fuel true source.drop
      | .tagDirective handle replacement =>
          if (source.handles.lookup handle).isSome then failAt token.mark .repeatedTagHandle
          else
            readDirectives fuel hasVersion
              { source.drop with handles := source.handles ++ [(handle, replacement)] }
      | _ => return source

/-- Reads the directives of a document and adds the handles that every document has. -/
def processDirectives (source : EventSource) : Except Fault EventSource := do
  let source ← readDirectives (source.tokens.cursor.rest.length + 2) false source
  let missing := defaultHandles.filter fun handle => (source.handles.lookup handle.1).isNone
  return { source with handles := source.handles ++ missing }

/-- Drops marks of document ends. The number bounds them. -/
def dropDocumentEnds : Nat → EventSource → Except Fault EventSource
  | 0, source => .ok source
  | fuel + 1, source => do
      let (token, source) ← source.peek
      if token.kind = .documentEnd then dropDocumentEnds fuel source.drop else return source

def startsDocument : TokenKind → Bool
  | .versionDirective _ _ | .tagDirective _ _ | .documentStart | .streamEnd => true
  | _ => false

def readDocumentStart (implicit : Bool) (source : EventSource) :
    Except Fault (Event × EventSource) := do
  let source ←
    if implicit then pure source
    else dropDocumentEnds (source.tokens.cursor.rest.length + 2) source
  let (token, source) ← source.peek
  if implicit ∧ !startsDocument token.kind then
    let source ← source.processDirectives
    return (⟨.documentStart, token.mark⟩, (source.push .documentEnd).expect .blockNode)
  else if token.kind = .streamEnd then return (⟨.streamEnd, token.mark⟩, source.drop)
  else
    let source ← source.processDirectives
    let (next, source) ← source.peek
    if next.kind ≠ .documentStart then failAt next.mark .missingDocumentStart
    else
      return (⟨.documentStart, token.mark⟩,
        ((source.push .documentEnd).expect .documentContent).drop)

def readDocumentEnd (source : EventSource) : Except Fault (Event × EventSource) := do
  let (token, source) ← source.peek
  let source := if token.kind = .documentEnd then source.drop else source
  return (⟨.documentEnd, token.mark⟩,
    { source with handles := [], expected := .documentStart false })

/-- The anchor and the tag before a node, and the place where they start. -/
structure Properties where
  anchor : Option String
  tag : Option (String × String × Mark)

/-- Reads the anchor and the tag before a node, in either order. -/
def readProperties (source : EventSource) : Except Fault (Properties × EventSource) := do
  let (token, source) ← source.peek
  match token.kind with
  | .anchor name =>
      let source := source.drop
      let (next, source) ← source.peek
      match next.kind with
      | .tag handle suffix => return (⟨some name, some (handle, suffix, next.mark)⟩, source.drop)
      | _ => return (⟨some name, none⟩, source)
  | .tag handle suffix =>
      let source := source.drop
      let (next, source) ← source.peek
      match next.kind with
      | .anchor name =>
          return (⟨some name, some (handle, suffix, token.mark)⟩, source.drop)
      | _ => return (⟨none, some (handle, suffix, token.mark)⟩, source)
  | _ => return (⟨none, none⟩, source)

/-- The tag that a handle and a suffix stand for. -/
def resolveTag (source : EventSource) (start : Mark) :
    Option (String × String × Mark) → Except Fault (Option String)
  | none => .ok none
  | some (handle, suffix, mark) =>
      if handle.isEmpty then .ok (some suffix)
      else
        match source.handles.lookup handle with
        | some replacement => .ok (some (replacement ++ suffix))
        | none => failFrom mark .undefinedTagHandle .node start

/-- Reads the start of a node. -/
def readNode (block indentless : Bool) (source : EventSource) :
    Except Fault (Event × EventSource) := do
  let (first, source) ← source.peek
  match first.kind with
  | .aliasTo name => return (⟨.aliasTo name, first.mark⟩, source.resume.drop)
  | _ =>
      let start := first.mark
      let (properties, source) ← source.readProperties
      let (token, source) ← source.peek
      let tag ← source.resolveTag start properties.tag
      let anchor := properties.anchor
      match token.kind, block with
      | .blockEntry, _ =>
          if indentless then
            return (⟨.sequenceStart anchor tag, start⟩, source.expect .plainEntry)
          else missing source anchor tag start token
      | .scalar text plain, _ => return (⟨.scalar anchor tag text plain, start⟩, source.resume.drop)
      | .flowSequenceStart, _ =>
          return (⟨.sequenceStart anchor tag, start⟩, source.expect (.flowItem true))
      | .flowMappingStart, _ =>
          return (⟨.mappingStart anchor tag, start⟩, source.expect (.flowKey true))
      | .blockSequenceStart, true =>
          return (⟨.sequenceStart anchor tag, start⟩, source.expect (.blockEntry true))
      | .blockMappingStart, true =>
          return (⟨.mappingStart anchor tag, start⟩, source.expect (.blockKey true))
      | _, _ => missing source anchor tag start token
where
  /-- A node with an anchor or a tag may be empty. -/
  missing (source : EventSource) (anchor tag : Option String) (start : Mark) (token : Token) :
      Except Fault (Event × EventSource) :=
    if anchor.isSome ∨ tag.isSome then .ok (⟨.scalar anchor tag "" true, start⟩, source.resume)
    else
      failFrom token.mark .missingContent (if block then .blockNode else .flowNode) start

def readDocumentContent (source : EventSource) : Except Fault (Event × EventSource) := do
  let (token, source) ← source.peek
  if startsDocument token.kind || token.kind == .documentEnd then
    return (emptyScalar token.mark, source.resume)
  else source.readNode true false

/-- Steps over the token that starts a collection. -/
def enter (isFirst : Bool) (source : EventSource) : Except Fault EventSource := do
  if isFirst then
    let (token, source) ← source.peek
    return (source.openAt token.mark).drop
  else return source

def readBlockEntry (isFirst : Bool) (source : EventSource) :
    Except Fault (Event × EventSource) := do
  let (token, source) ← (← source.enter isFirst).peek
  match token.kind with
  | .blockEntry =>
      let (next, source) ← source.drop.peek
      match next.kind with
      | .blockEntry | .blockEnd =>
          return (emptyScalar token.mark, source.expect (.blockEntry false))
      | _ => (source.push (.blockEntry false)).readNode true false
  | .blockEnd => return (⟨.sequenceEnd, token.mark⟩, source.close.drop)
  | _ => source.failInside token .missingDash .blockSequence

def readPlainEntry (source : EventSource) : Except Fault (Event × EventSource) := do
  let (token, source) ← source.peek
  match token.kind with
  | .blockEntry =>
      let (next, source) ← source.drop.peek
      match next.kind with
      | .blockEntry | .key | .value | .blockEnd =>
          return (emptyScalar token.mark, source.expect .plainEntry)
      | _ => (source.push .plainEntry).readNode true false
  | _ => return (⟨.sequenceEnd, token.mark⟩, source.resume)

def readBlockKey (isFirst : Bool) (source : EventSource) :
    Except Fault (Event × EventSource) := do
  let (token, source) ← (← source.enter isFirst).peek
  match token.kind with
  | .key =>
      let (next, source) ← source.drop.peek
      match next.kind with
      | .key | .value | .blockEnd => return (emptyScalar token.mark, source.expect .blockValue)
      | _ => (source.push .blockValue).readNode true true
  | .blockEnd => return (⟨.mappingEnd, token.mark⟩, source.close.drop)
  | _ => source.failInside token .missingKey .blockMapping

def readBlockValue (source : EventSource) : Except Fault (Event × EventSource) := do
  let (token, source) ← source.peek
  match token.kind with
  | .value =>
      let (next, source) ← source.drop.peek
      match next.kind with
      | .key | .value | .blockEnd =>
          return (emptyScalar token.mark, source.expect (.blockKey false))
      | _ => (source.push (.blockKey false)).readNode true true
  | _ => return (emptyScalar token.mark, source.expect (.blockKey false))

/-- Steps over the comma between two items of a flow collection. -/
def separate (isFirst : Bool) (stop : TokenKind) (problem : Problem) (activity : Activity)
    (source : EventSource) : Except Fault (Token × EventSource) := do
  let (token, source) ← source.peek
  if isFirst ∨ token.kind = stop then return (token, source)
  else if token.kind = .flowEntry then source.drop.peek
  else source.failInside token problem activity

def readFlowItem (isFirst : Bool) (source : EventSource) :
    Except Fault (Event × EventSource) := do
  let source ← source.enter isFirst
  let (token, source) ←
    source.separate isFirst .flowSequenceEnd .missingCommaOrBracket .flowSequence
  match token.kind with
  | .flowSequenceEnd => return (⟨.sequenceEnd, token.mark⟩, source.close.drop)
  | .key => return (⟨.mappingStart none none, token.mark⟩, (source.expect .pairKey).drop)
  | _ => (source.push (.flowItem false)).readNode false false

def readPairKey (source : EventSource) : Except Fault (Event × EventSource) := do
  let (token, source) ← source.peek
  match token.kind with
  | .value | .flowEntry | .flowSequenceEnd =>
      return (emptyScalar token.mark, (source.expect .pairValue).drop)
  | _ => (source.push .pairValue).readNode false false

def readPairValue (source : EventSource) : Except Fault (Event × EventSource) := do
  let (token, source) ← source.peek
  match token.kind with
  | .value =>
      let (next, source) ← source.drop.peek
      match next.kind with
      | .flowEntry | .flowSequenceEnd => return (emptyScalar next.mark, source.expect .pairEnd)
      | _ => (source.push .pairEnd).readNode false false
  | _ => return (emptyScalar token.mark, source.expect .pairEnd)

def readPairEnd (source : EventSource) : Except Fault (Event × EventSource) := do
  let (token, source) ← source.peek
  return (⟨.mappingEnd, token.mark⟩, source.expect (.flowItem false))

def readFlowKey (isFirst : Bool) (source : EventSource) :
    Except Fault (Event × EventSource) := do
  let source ← source.enter isFirst
  let (token, source) ←
    source.separate isFirst .flowMappingEnd .missingCommaOrBrace .flowMapping
  match token.kind with
  | .flowMappingEnd => return (⟨.mappingEnd, token.mark⟩, source.close.drop)
  | .key =>
      let (next, source) ← source.drop.peek
      match next.kind with
      | .value | .flowEntry | .flowMappingEnd =>
          return (emptyScalar next.mark, source.expect .flowValue)
      | _ => (source.push .flowValue).readNode false false
  | _ => (source.push .flowNoValue).readNode false false

def readFlowValue (source : EventSource) : Except Fault (Event × EventSource) := do
  let (token, source) ← source.peek
  match token.kind with
  | .value =>
      let (next, source) ← source.drop.peek
      match next.kind with
      | .flowEntry | .flowMappingEnd =>
          return (emptyScalar next.mark, source.expect (.flowKey false))
      | _ => (source.push (.flowKey false)).readNode false false
  | _ => return (emptyScalar token.mark, source.expect (.flowKey false))

def readFlowNoValue (source : EventSource) : Except Fault (Event × EventSource) := do
  let (token, source) ← source.peek
  return (emptyScalar token.mark, source.expect (.flowKey false))

/-- Reads the next event of a stream that has started. -/
def next (source : EventSource) : Except Fault (Event × EventSource) :=
  match source.expected with
  | .streamStart => do
      let (_, source) ← source.peek
      source.drop.readDocumentStart true
  | .documentStart implicit => source.readDocumentStart implicit
  | .documentContent => source.readDocumentContent
  | .documentEnd => source.readDocumentEnd
  | .blockNode => source.readNode true false
  | .blockEntry isFirst => source.readBlockEntry isFirst
  | .plainEntry => source.readPlainEntry
  | .blockKey isFirst => source.readBlockKey isFirst
  | .blockValue => source.readBlockValue
  | .flowItem isFirst => source.readFlowItem isFirst
  | .pairKey => source.readPairKey
  | .pairValue => source.readPairValue
  | .pairEnd => source.readPairEnd
  | .flowKey isFirst => source.readFlowKey isFirst
  | .flowValue => source.readFlowValue
  | .flowNoValue => source.readFlowNoValue

end EventSource

end ApiContract.Yaml
