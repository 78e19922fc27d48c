import ApiContract.File.Path
import ApiContract.Text.Utf8

/-
This file holds a file system as a finite tree, and the walk from a path to what it names. Links are
followed, and every step of a path has to exist.
-/

namespace ApiContract

/-- Whether a part of a path names a place below the current one. -/
def FileSystem.isName (part : String) : Bool := !part.isEmpty && part != "." && part != ".."

/-- The number of bytes that a name of a place may have. -/
def FileName.greatestSize : Nat := 255

/-- Whether a directory can hold a text as a name. -/
def FileName.isAllowed (text : String) : Bool :=
  FileSystem.isName text && text.utf8ByteSize ≤ greatestSize &&
    text.toList.all fun character => character != '/' && character != '\x00'

/-- The name of a place in its directory. -/
structure FileName where
  text : String
  allowed : FileName.isAllowed text = true
  deriving DecidableEq

def FileName.ofString? (text : String) : Option FileName :=
  if allowed : isAllowed text = true then some ⟨text, allowed⟩ else none

/-- What a place of a file system holds. -/
inductive FileNode where
  | file (bytes : List Nat)
  | directory (entries : List (FileName × FileNode))
  | link (target : String)
  deriving Inhabited

/-- A tree of files, and the directory that relative paths start from. -/
structure FileSystem where
  tree : List (FileName × FileNode)
  workingDirectory : List String

/-- Why a file cannot be read. -/
inductive FileFault where
  | notFound
  | notADirectory
  | isADirectory
  | tooManyLinks
  | nameTooLong
  | nulInPath
  | notUtf8
  deriving DecidableEq, Repr

def FileFault.message : FileFault → String
  | notFound => "No such file or directory (os error 2)"
  | notADirectory => "Not a directory (os error 20)"
  | isADirectory => "Is a directory (os error 21)"
  | tooManyLinks => "Too many levels of symbolic links (os error 40)"
  | nameTooLong => "File name too long (os error 36)"
  | nulInPath => "file name contained an unexpected NUL byte"
  | notUtf8 => "stream did not contain valid UTF-8"

namespace FileSystem

/-- The node with a name in a directory. -/
def child? (entries : List (FileName × FileNode)) (name : String) : Option FileNode :=
  (entries.find? fun entry => entry.1.text == name).map (·.2)

/-- The node at a list of names below a directory, without following links. -/
def nodeAt? (entries : List (FileName × FileNode)) : List String → Option FileNode
  | [] => some (.directory entries)
  | name :: rest =>
      match child? entries name with
      | none => none
      | some (.directory inner) => nodeAt? inner rest
      | some node => if rest.isEmpty then some node else none

def node? (files : FileSystem) (place : List String) : Option FileNode := nodeAt? files.tree place

/-- The number of links that a walk may follow. -/
def greatestLinkCount : Nat := 40

/-- What a walk does at a part of a path, from a place on: the links that may still be followed, the
next place, and the parts of a link that come in the place of the part. -/
def walkPart (files : FileSystem) (links : Nat) (place : List String) (part : String) :
    Except FileFault (Nat × List String × List String) :=
  match files.node? place with
  | none => .error .notFound
  | some (.directory _) =>
      if Path.isBlank part then .ok (links, place, [])
      else if part = ".." then .ok (links, place.dropLast, [])
      else if FileName.greatestSize < part.utf8ByteSize then .error .nameTooLong
      else
        match files.node? (place ++ [part]) with
        | none => .error .notFound
        | some (.link target) =>
            if links = 0 then .error .tooManyLinks
            else if target.isEmpty then .error .notFound
            else
              .ok (links - 1, if Text.startsWith target "/" then [] else place,
                Text.split '/' target)
        | some _ => .ok (links, place ++ [part], [])
  | some _ => .error .notADirectory

/-- A walk goes on only in a directory: it stays, goes up, follows a link or goes down. -/
theorem walkPart_cases (files : FileSystem) (links links' : Nat) (place place' : List String)
    (part : String) (inner : List String)
    (step : files.walkPart links place part = .ok (links', place', inner)) :
    ∃ entries, files.node? place = some (.directory entries) ∧
      (links' = links ∧ inner = [] ∧
          (Path.isBlank part ∧ place' = place ∨ part = ".." ∧ place' = place.dropLast ∨
            place' = place ++ [part] ∧ ∃ node, files.node? place' = some node ∧
              ∀ target, node ≠ .link target) ∨
        links = links' + 1 ∧ ∃ target, inner = Text.split '/' target) := by
  unfold walkPart at step
  split at step
  · cases step
  · next entries directory =>
      refine ⟨entries, directory, ?_⟩
      split at step
      · next blank =>
          cases step
          exact .inl ⟨rfl, rfl, .inl ⟨blank, rfl⟩⟩
      · split at step
        · next up =>
            cases step
            exact .inl ⟨rfl, rfl, .inr (.inl ⟨up, rfl⟩)⟩
        · split at step
          · cases step
          · split at step
            · cases step
            · next target link =>
                split at step
                · cases step
                · split at step
                  · cases step
                  · cases step
                    exact .inr ⟨by omega, target, rfl⟩
            · next node notLink found =>
                cases step
                exact .inl ⟨rfl, rfl, .inr (.inr ⟨rfl, node, found, notLink⟩)⟩
  · cases step

/-- Walks the parts of a path from a directory; the result is a place that exists and is no link.
The number bounds the links that are followed. -/
def walk (files : FileSystem) : Nat → List String → List String → Except FileFault (List String)
  | _, place, [] => .ok place
  | links, place, part :: rest =>
      match _step : files.walkPart links place part with
      | .error fault => .error fault
      | .ok (links, place, inner) => walk files links place (inner ++ rest)
termination_by links _ parts => (links, parts.length)
decreasing_by
  obtain ⟨_, _, ⟨same, empty, _⟩ | ⟨fewer, _⟩⟩ := walkPart_cases files _ _ _ _ _ _ _step
  · subst same empty
    exact Prod.Lex.right _ (by simp)
  · exact Prod.Lex.left _ _ (by omega)

/-- The place that a path of any length names. -/
def locate (files : FileSystem) (path : Path) : Except FileFault (List String) :=
  if path.text.isEmpty then .error .notFound
  else if path.text.toList.any (· == '\x00') then .error .nulInPath
  else
    let start := if path.isAbsolute then [] else files.workingDirectory
    walk files greatestLinkCount start (Text.split '/' path.text)

/-- The number of bytes from which on a path is too long to be opened. -/
def pathLimit : Nat := 4096

/-- The place that a path names, if the path is short enough to be opened. -/
def openPlace (files : FileSystem) (path : Path) : Except FileFault (List String) :=
  if pathLimit ≤ path.text.utf8ByteSize ∧ ¬ path.text.toList.any (· == '\x00') then
    .error .nameTooLong
  else files.locate path

/-- The absolute path of a place. -/
def pathOf (place : List String) : Path := ⟨"/" ++ String.intercalate "/" place⟩

/-- The one absolute path without links that names the same place as a path. -/
def canonical? (files : FileSystem) (path : Path) : Option Path :=
  match files.locate path with
  | .ok place => some (pathOf place)
  | .error _ => none

/-- The node that a path names. -/
def nodeOf? (files : FileSystem) (path : Path) : Option FileNode :=
  match files.openPlace path with
  | .ok place => files.node? place
  | .error _ => none

def isFile (files : FileSystem) (path : Path) : Bool :=
  match files.nodeOf? path with
  | some (.file _) => true
  | _ => false

def isDirectory (files : FileSystem) (path : Path) : Bool :=
  match files.nodeOf? path with
  | some (.directory _) => true
  | _ => false

/-- The names in a directory. -/
def names (files : FileSystem) (path : Path) : List String :=
  match files.nodeOf? path with
  | some (.directory entries) => entries.map (·.1.text)
  | _ => []

/-- The text of a file. -/
def readText (files : FileSystem) (path : Path) : Except FileFault String :=
  match files.openPlace path with
  | .error fault => .error fault
  | .ok place =>
      match files.node? place with
      | some (.file bytes) =>
          match Text.decodeUtf8 bytes with
          | .ok text => .ok text
          | .error _ => .error .notUtf8
      | some (.directory _) => .error .isADirectory
      | _ => .error .notFound

mutual

/-- The places of all files and directories at a node and below it. -/
def places (place : List String) : FileNode → List (List String)
  | .file _ => [place]
  | .directory entries => place :: entryPlaces place entries
  | .link _ => []

def entryPlaces (place : List String) : List (FileName × FileNode) → List (List String)
  | [] => []
  | (name, node) :: rest => places (place ++ [name.text]) node ++ entryPlaces place rest

end

/-- The absolute paths of all files and directories. -/
def allPlaces (files : FileSystem) : List Path :=
  (places [] (.directory files.tree)).map pathOf

/-- The absolute paths of all files. -/
def allFiles (files : FileSystem) : List Path := files.allPlaces.filter files.isFile

/-- The entries with one of them replaced, added or removed. -/
def alterEntry (name : FileName) (change : Option FileNode → Option FileNode) :
    List (FileName × FileNode) → List (FileName × FileNode)
  | [] =>
      match change none with
      | some node => [(name, node)]
      | none => []
  | (other, held) :: rest =>
      if other = name then
        match change (some held) with
        | some node => (name, node) :: rest
        | none => rest
      else (other, held) :: alterEntry name change rest

/-- The tree with a node at a place; missing directories on the way are made. A name that no
directory can hold ends the way. -/
def put (node : FileNode) : List String → List (FileName × FileNode) → List (FileName × FileNode)
  | [], entries => entries
  | part :: rest, entries =>
      match FileName.ofString? part with
      | none => entries
      | some name =>
          alterEntry name (fun held =>
            if rest.isEmpty then some node
            else
              match held with
              | some (.directory inner) => some (.directory (put node rest inner))
              | _ => some (.directory (put node rest []))) entries

/-- The tree without the node at a place. -/
def erase : List String → List (FileName × FileNode) → List (FileName × FileNode)
  | [], entries => entries
  | part :: rest, entries =>
      match FileName.ofString? part with
      | none => entries
      | some name =>
          alterEntry name (fun held =>
            if rest.isEmpty then none
            else
              match held with
              | some (.directory inner) => some (.directory (erase rest inner))
              | other => other) entries

/-- The place of a part below a place, whether it exists or not. -/
def placeBelow (files : FileSystem) (place : List String) (part : String) : List String :=
  match files.walk greatestLinkCount place [part] with
  | .ok next => next
  | .error _ =>
      if part = ".." then place.dropLast
      else if isName part then place ++ [part]
      else place

/-- The place of a path, whether it exists or not. Links to directories are followed. -/
def placeFor (files : FileSystem) (path : Path) : List String :=
  match files.locate path with
  | .ok place => place
  | .error _ =>
      let start := if path.isAbsolute then [] else files.workingDirectory
      (Text.split '/' path.text).foldl files.placeBelow start

/-- The file system with a node at a path. -/
def write (files : FileSystem) (path : Path) (node : FileNode) : FileSystem :=
  { files with tree := put node (files.placeFor path) files.tree }

/-- The file system without what is at a path; a link is removed itself. -/
def remove (files : FileSystem) (path : Path) : FileSystem :=
  match path.parent?, path.fileName? with
  | some parent, some name =>
      { files with tree := erase (files.placeFor parent ++ [name]) files.tree }
  | _, _ => files

/-- A file system that holds only its working directory. -/
def empty (workingDirectory : List String) : FileSystem :=
  ⟨put (.directory []) workingDirectory [], workingDirectory⟩

end FileSystem

end ApiContract
