import ApiContract.Cache
import ApiContract.Reference

/-
This file puts the targets of references in the place of the references. A reference to a target
that is being put in further up stays where it is and gets a mark, so the work ends for recursive
schemas too.
-/

namespace ApiContract

/-- The member that marks a reference to an enclosing target. -/
def recursiveMark : String := "x-recursive-ref"

/-- What a reference leads to in the end. -/
structure Resolved where
  value : Json
  file : Path
  pointer : String

/-- A place that a reference leads to; outer slashes of the pointer do not count. -/
structure Target where
  file : Path
  pointer : String

namespace Target

def ofPointer (file : Path) (pointer : String) : Target := ⟨file, Text.trimMark '/' pointer⟩

def same (first second : Target) : Bool :=
  first.file.same second.file && first.pointer == second.pointer

def text (target : Target) : String := target.file.text ++ "#/" ++ target.pointer

/-- A reference node with the mark of this target. -/
def mark (target : Target) (node : Json) : Json :=
  .object (Table.insert recursiveMark (.string target.text) node.members)

end Target

namespace Json

mutual

/-- The texts of all references in a tree. -/
def references (node : Json) : List String :=
  node.reference?.toList ++
    match node with
    | array items => itemReferences items
    | object members => memberReferences members
    | _ => []

def itemReferences : List Json → List String
  | [] => []
  | item :: rest => references item ++ itemReferences rest

def memberReferences : List (String × Json) → List String
  | [] => []
  | (_, value) :: rest => references value ++ memberReferences rest

end

end Json

/-- The file that a run starts in, and the texts of references that it can come by. -/
structure Scope where
  start : Path
  texts : List String

/-- The targets of all references of a scope, in the first file and in all that exist. -/
def Scope.targets (files : FileSystem) (scope : Scope) : List Target :=
  (scope.start :: files.allPlaces).flatMap fun place =>
    (scope.texts.filterMap Reference.ofString?).map fun reference =>
      Target.ofPointer place reference.pointer

/-- What a resolver has seen: the documents, the targets that it is putting in, the innermost first,
and the number of references that it left in place. -/
structure Resolver where
  cache : DocumentCache
  expanding : List Target
  unresolved : Nat

namespace Resolver

def ofCache (cache : DocumentCache) : Resolver := ⟨cache, [], 0⟩

/-- The documents that are known, and those that can be read. -/
def knownDocuments (files : FileSystem) (cache : DocumentCache) : List Json :=
  cache.documents ++ files.allPlaces.filterMap (Document.load? files)

/-- The scope of a run from a file: the references that are given or occur in a document. -/
def scope (files : FileSystem) (cache : DocumentCache) (file : Path) (given : List String) : Scope :=
  ⟨file, given ++ (knownDocuments files cache).flatMap Json.references⟩

/-- More than the number of targets of a run. -/
def targetBound (files : FileSystem) (cache : DocumentCache) (file : Path) (given : List String) :
    Nat :=
  ((scope files cache file given).targets files).length + 1

/-- The file and the document that a reference is read in. -/
structure Context where
  file : Path
  document : Option Json

/-- Goes to the document that a reference names. -/
def enter (files : FileSystem) (reference : Reference) (context : Context)
    (cache : DocumentCache) : Option (Path × Json) × DocumentCache :=
  match reference with
  | .inDocument _ =>
      match context.document with
      | some document => (some (context.file, document), cache)
      | none =>
          let (document, cache) := cache.get files context.file
          (document.map fun document => (context.file, document), cache)
  | .inFile file _ =>
      let base := context.file.parent?.getD ⟨"."⟩
      match files.canonical? (base.join ⟨file⟩) with
      | none => (none, cache)
      | some target =>
          let (document, cache) := cache.get files target
          (document.map fun document => (target, document), cache)

/-- Where a walk along a chain of references stands: the targets that it has come by, the next
reference, and where that is read. -/
structure ChainState where
  chain : List Target
  text : String
  context : Context
  cache : DocumentCache

/-- What one link of a chain gives: the end of the chain, or the next reference. -/
inductive ChainStep where
  | finished (resolved : Option Resolved) (cache : DocumentCache)
  | next (state : ChainState)

/-- Follows one link of a chain. A chain that comes back to a target leads nowhere. -/
def chainStep (files : FileSystem) (state : ChainState) : ChainStep :=
  match Reference.ofString? state.text with
  | none => .finished none state.cache
  | some reference =>
      match enter files reference state.context state.cache with
      | (none, cache) => .finished none cache
      | (some (file, document), cache) =>
          match document.at? reference.pointer with
          | none => .finished none cache
          | some node =>
              let target := Target.ofPointer file reference.pointer
              if state.chain.any target.same then .finished none cache
              else
                match node.reference? with
                | none => .finished (some ⟨node, file, reference.pointer⟩) cache
                | some text => .next ⟨target :: state.chain, text, ⟨file, some document⟩, cache⟩

/-- Follows a chain of references to its end. The number bounds the targets. -/
def followChain (files : FileSystem) : Nat → ChainState → Option Resolved × DocumentCache
  | 0, state => (none, state.cache)
  | bound + 1, state =>
      match chainStep files state with
      | .finished resolved cache => (resolved, cache)
      | .next state => followChain files bound state

/-- Resolves a reference in a file, within a bound on the targets. -/
def resolveWithin (files : FileSystem) (bound : Nat) (text : String) (file : Path)
    (document : Option Json) (resolver : Resolver) : Option Resolved × Resolver :=
  let (resolved, cache) := followChain files bound ⟨[], text, ⟨file, document⟩, resolver.cache⟩
  (resolved, { resolver with cache := cache })

/-- Resolves a reference in a file. The document of the file may be given. -/
def resolve (files : FileSystem) (text : String) (file : Path) (document : Option Json)
    (resolver : Resolver) : Option Resolved × Resolver :=
  let given := text :: document.elim [] Json.references
  resolveWithin files (targetBound files resolver.cache file given) text file document resolver

/-- Leaves a reference in place. -/
def leave (node : Json) (resolver : Resolver) : Json × Resolver :=
  (node, { resolver with unresolved := resolver.unresolved + 1 })

mutual

/-- Puts something in the place of each outermost reference of a tree. -/
def replaceReferences (expand : String → Json → Resolver → Json × Resolver) (node : Json)
    (resolver : Resolver) : Json × Resolver :=
  match node.reference? with
  | some text => expand text node resolver
  | none =>
      match node with
      | .array items =>
          let (items, resolver) := replaceInItems expand items resolver
          (.array items, resolver)
      | .object members =>
          let (members, resolver) := replaceInMembers expand members resolver
          (.object members, resolver)
      | other => (other, resolver)

def replaceInItems (expand : String → Json → Resolver → Json × Resolver) :
    List Json → Resolver → List Json × Resolver
  | [], resolver => ([], resolver)
  | item :: rest, resolver =>
      let (item, resolver) := replaceReferences expand item resolver
      let (rest, resolver) := replaceInItems expand rest resolver
      (item :: rest, resolver)

def replaceInMembers (expand : String → Json → Resolver → Json × Resolver) :
    List (String × Json) → Resolver → List (String × Json) × Resolver
  | [], resolver => ([], resolver)
  | (key, value) :: rest, resolver =>
      let (value, resolver) := replaceReferences expand value resolver
      let (rest, resolver) := replaceInMembers expand rest resolver
      ((key, value) :: rest, resolver)

end

/-- Starts to put a target in. -/
def push (target : Target) (resolver : Resolver) : Resolver :=
  { resolver with expanding := target :: resolver.expanding }

/-- Ends putting the innermost target in. -/
def pop (resolver : Resolver) : Resolver :=
  { resolver with expanding := resolver.expanding.tail }

/-- What comes in the place of a reference in a file. The first number bounds the targets of a
chain, the second the targets that enclose one another. -/
def expandReference (files : FileSystem) (bound : Nat) :
    Nat → Path → String → Json → Resolver → Json × Resolver
  | 0, _, _, node, resolver => leave node resolver
  | levels + 1, file, text, node, resolver =>
      if (node.member? recursiveMark).isSome then leave node resolver
      else
        match resolveWithin files bound text file none resolver with
        | (none, resolver) => leave node resolver
        | (some resolved, resolver) =>
            let target := Target.ofPointer resolved.file resolved.pointer
            if resolver.expanding.any target.same then leave (target.mark node) resolver
            else
              let (tree, resolver) :=
                replaceReferences (expandReference files bound levels resolved.file) resolved.value
                  (resolver.push target)
              (tree, resolver.pop)

/-- Puts targets in the place of references, within a bound on the targets. -/
def resolveTreeWithin (files : FileSystem) (bound : Nat) (node : Json) (file : Path)
    (resolver : Resolver) : Json × Resolver :=
  replaceReferences (expandReference files bound bound file) node resolver

/-- Puts targets in the place of all references of a tree that lies in a file. -/
def resolveTree (files : FileSystem) (node : Json) (file : Path) (resolver : Resolver) :
    Json × Resolver :=
  resolveTreeWithin files (targetBound files resolver.cache file node.references) node file
    resolver

end Resolver

end ApiContract
