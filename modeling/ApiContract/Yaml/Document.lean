import ApiContract.Yaml.Event
import ApiContract.Yaml.Scalar.Value

/-
This file reads the one document of a stream into a tree of nodes. Aliases are read where their
anchors stand, up to a bound on nesting and on the number of aliases that are followed.
-/

namespace ApiContract.Yaml

/-- The way from the root of a document to a node, as messages name it. -/
inductive NodePath where
  | root
  | item (parent : NodePath) (index : Nat)
  | member (parent : NodePath) (key : String)
  | aliased (parent : NodePath)
  | unknown (parent : NodePath)

def NodePath.text : NodePath → String
  | root => "."
  | item parent index => parent.text ++ "[" ++ toString index ++ "]"
  | member .root key => key
  | member parent key => parent.text ++ "." ++ key
  | aliased parent => parent.text
  | unknown .root => "?"
  | unknown parent => parent.text ++ "." ++ "?"

/-- Why a text holds no document. -/
inductive ReadError where
  | stream (fault : Fault)
  | node (problem : NodeProblem) (mark : Mark) (path : NodePath)
  | unknownAnchor (mark : Mark)
  | tooDeep (mark : Mark)
  | tooManyAliases
  | severalDocuments
  | endOfStream

def ReadError.message : ReadError → String
  | stream fault => fault.message
  | node problem mark path =>
      (if path.text = "." then "" else path.text ++ ": ") ++ problem.message ++ mark.suffix
  | unknownAnchor mark => "unknown anchor" ++ mark.suffix
  | tooDeep mark => "recursion limit exceeded" ++ mark.suffix
  | tooManyAliases => "repetition limit exceeded"
  | severalDocuments =>
      "deserializing from YAML containing more than one document is not supported"
  | endOfStream => "EOF while parsing a value"

/-- An event inside a document; an alias names the number of its anchor. -/
inductive NodeEvent where
  | nothing
  | aliasTo (number : Nat)
  | scalar (tag : Option String) (text : String) (plain : Bool)
  | sequenceStart (tag : Option String)
  | sequenceEnd
  | mappingStart (tag : Option String)
  | mappingEnd

/-- The events of a document up to its end or a fault, and the positions of the anchors by number.
-/
structure NodeEvents where
  events : Array (NodeEvent × Mark)
  anchors : List (Nat × Nat)
  error : Option ReadError

namespace NodeEvents

/-- The events that were read so far, in reverse, with the numbers and positions of the anchors. -/
structure Partial where
  reversed : List (NodeEvent × Mark)
  count : Nat
  numbers : List (String × Nat)
  positions : List (Nat × Nat)

def Partial.finish (read : Partial) (error : Option ReadError) : NodeEvents :=
  ⟨read.reversed.reverse.toArray, read.positions, error⟩

def Partial.add (read : Partial) (event : NodeEvent) (mark : Mark) : Partial :=
  { read with reversed := (event, mark) :: read.reversed, count := read.count + 1 }

/-- Numbers an anchor by how many names there are. The last anchor with a name is the one that
counts. -/
def Partial.setAnchor (read : Partial) : Option String → Partial
  | none => read
  | some name =>
      let number := read.numbers.length
      { read with
        numbers := (name, number) :: read.numbers.filter (·.1 != name)
        positions := (number, read.count) :: read.positions }

/-- Reads the events of one document. The number bounds them. -/
def readFrom : Nat → Partial → EventSource → NodeEvents × Option EventSource
  | 0, read, _ => (read.finish none, none)
  | fuel + 1, read, source =>
      match source.next with
      | .error fault => (read.finish (some (.stream fault)), none)
      | .ok (event, source) =>
          match event.kind with
          | .streamEnd =>
              let read := if read.count = 0 then read.add .nothing event.mark else read
              (read.finish none, none)
          | .documentStart => readFrom fuel read source
          | .documentEnd => (read.finish none, some source)
          | .aliasTo name =>
              match read.numbers.lookup name with
              | some number => readFrom fuel (read.add (.aliasTo number) event.mark) source
              | none => (read.finish (some (.unknownAnchor event.mark)), none)
          | .scalar anchor tag text plain =>
              readFrom fuel ((read.setAnchor anchor).add (.scalar tag text plain) event.mark) source
          | .sequenceStart anchor tag =>
              readFrom fuel ((read.setAnchor anchor).add (.sequenceStart tag) event.mark) source
          | .sequenceEnd => readFrom fuel (read.add .sequenceEnd event.mark) source
          | .mappingStart anchor tag =>
              readFrom fuel ((read.setAnchor anchor).add (.mappingStart tag) event.mark) source
          | .mappingEnd => readFrom fuel (read.add .mappingEnd event.mark) source

/-- Whether another document, or something that is none, follows. -/
def isFollowed (source : EventSource) : Bool :=
  match source.next with
  | .ok (⟨.streamEnd, _⟩, _) => false
  | _ => true

end NodeEvents

/-- The place in the events, and the number of aliases that were followed. -/
structure ReadState where
  position : Nat
  jumps : Nat

namespace Node

/-- The name of a tag that is kept at its node: one with a leading exclamation mark. -/
def ownTag? (tag : Option String) : Option String :=
  match tag.map String.toList with
  | some ['!'] => some "!"
  | some ('!' :: rest) => some (String.ofList rest)
  | _ => none

def peek (events : NodeEvents) (position : Nat) : Except ReadError (NodeEvent × Mark) :=
  match events.events[position]? with
  | some event => .ok event
  | none => .error (events.error.getD .endOfStream)

/-- The number of aliases that may be followed, by event. -/
def aliasesPerEvent : Nat := 100

/-- Follows an alias to the position of its anchor. -/
def follow (events : NodeEvents) (anchor jumps : Nat) : Except ReadError ReadState :=
  if events.events.size * aliasesPerEvent < jumps + 1 then .error .tooManyAliases
  else
    match events.anchors.lookup anchor with
    | some position => .ok ⟨position, jumps + 1⟩
    | none => .error .endOfStream

def atPlace {α : Type} (mark : Mark) (path : NodePath) :
    Except NodeProblem α → Except ReadError α
  | .ok value => .ok value
  | .error problem => .error (.node problem mark path)

mutual

/-- Reads the node at a position. The first number bounds the steps, the second the levels. The tag
of a node that is read for its content is taken already. -/
def read (events : NodeEvents) :
    Nat → Nat → Bool → NodePath → ReadState → Except ReadError (Node × ReadState)
  | 0, _, _, _, _ => .error .endOfStream
  | fuel + 1, depth, tagTaken, path, state => do
      let (event, mark) ← peek events state.position
      let next : ReadState := { state with position := state.position + 1 }
      match event with
      | .nothing => return (null, next)
      | .aliasTo anchor =>
          let target ← follow events anchor state.jumps
          let (node, after) ← read events fuel depth false (.aliased path) target
          return (node, ⟨next.position, after.jumps⟩)
      | .scalar tag content plain =>
          match if tagTaken then none else ownTag? tag with
          | some name =>
              let (node, after) ← read events fuel depth true path state
              return (.tagged name node, after)
          | none =>
              let scalarTag := if tagTaken then none else tag
              let node ← atPlace mark path (Scalar.value scalarTag content plain)
              return (node, next)
      | .sequenceStart tag =>
          match if tagTaken then none else ownTag? tag with
          | some name =>
              let (node, after) ← read events fuel depth true path state
              return (.tagged name node, after)
          | none =>
              match depth with
              | 0 => .error (.tooDeep mark)
              | depth + 1 =>
                  let (items, after) ← readItems events fuel depth path 0 next
                  return (sequence items, after)
      | .mappingStart tag =>
          match if tagTaken then none else ownTag? tag with
          | some name =>
              let (node, after) ← read events fuel depth true path state
              return (.tagged name node, after)
          | none =>
              match depth with
              | 0 => .error (.tooDeep mark)
              | depth + 1 =>
                  let (entries, after) ← readEntries events fuel depth path mark [] next
                  return (mapping entries, after)
      | .sequenceEnd => .error .endOfStream
      | .mappingEnd => .error .endOfStream

/-- Reads the items of a sequence up to its end. -/
def readItems (events : NodeEvents) :
    Nat → Nat → NodePath → Nat → ReadState → Except ReadError (List Node × ReadState)
  | 0, _, _, _, _ => .error .endOfStream
  | fuel + 1, depth, path, index, state => do
      match ← peek events state.position with
      | (.sequenceEnd, _) => return ([], { state with position := state.position + 1 })
      | _ =>
          let (item, state) ← read events fuel depth false (.item path index) state
          let (items, state) ← readItems events fuel depth path (index + 1) state
          return (item :: items, state)

/-- Reads the entries of a mapping up to its end; no key may come twice. -/
def readEntries (events : NodeEvents) :
    Nat → Nat → NodePath → Mark → List (Node × Node) → ReadState →
      Except ReadError (List (Node × Node) × ReadState)
  | 0, _, _, _, _, _ => .error .endOfStream
  | fuel + 1, depth, path, mark, reversed, state => do
      let (event, _) ← peek events state.position
      match event with
      | .mappingEnd => return (reversed.reverse, { state with position := state.position + 1 })
      | _ =>
          let valuePath :=
            match event with
            | .scalar _ key _ => NodePath.member path key
            | _ => NodePath.unknown path
          let (key, state) ← read events fuel depth false path state
          match reversed.reverse.find? fun entry => entry.1.same key with
          | some (held, _) => .error (.node (.repeatedKey held) mark path)
          | none =>
              let (value, state) ← read events fuel depth false valuePath state
              readEntries events fuel depth path mark ((key, value) :: reversed) state

end

/-- The number of levels that a document may have. -/
def greatestDepth : Nat := 128

/-- Reads the root. Each level takes one step for itself, one for an alias, one for a tag, and one
for each item before it. -/
def ofEvents (events : NodeEvents) : Except ReadError Node := do
  let steps := (greatestDepth + 2) * (events.events.size + 4)
  let (node, _) ← read events steps greatestDepth false .root ⟨0, 0⟩
  match events.error with
  | some error => .error error
  | none => return node

/-- Reads a text that holds one document. -/
def parse (text : String) : Except ReadError Node := do
  let (offset, characters) :=
    match text.toList with
    | '\ufeff' :: rest => (3, rest)
    | other => (0, other)
  match characters.dropWhile isAllowed with
  | [] =>
      let start : Cursor := ⟨characters, .start⟩
      let steps := 16 * (characters.length + 4)
      let (events, rest) := NodeEvents.readFrom steps ⟨[], 0, [], []⟩ (.ofCursor start)
      let node ← ofEvents events
      if rest.any NodeEvents.isFollowed then .error .severalDocuments else return node
  | _ =>
      let before := String.ofList (characters.takeWhile isAllowed)
      .error (.stream (.forbiddenCharacter (offset + before.utf8ByteSize)))

end Node

end ApiContract.Yaml
