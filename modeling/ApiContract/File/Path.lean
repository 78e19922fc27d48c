import ApiContract.Text.Basic

/-
This file holds paths. A path keeps its text; two paths with one list of components name one place.
-/

namespace ApiContract

/-- A component of a path. A dot counts only at the start of a relative path. -/
inductive PathComponent where
  | root
  | current
  | parent
  | name (text : String)
  deriving DecidableEq, Repr

structure Path where
  text : String
  deriving DecidableEq, Repr

namespace Path

def isAbsolute (path : Path) : Bool := Text.startsWith path.text "/"

/-- Whether a part of a path leads nowhere. -/
def isBlank (part : String) : Bool := part.isEmpty || part == "."

def componentOf (part : String) : Option PathComponent :=
  if isBlank part then none
  else if part = ".." then some .parent
  else some (.name part)

def components (path : Path) : List PathComponent :=
  let parts := Text.split '/' path.text
  let start :=
    if path.isAbsolute then [PathComponent.root]
    else if parts.head? = some "." then [.current]
    else []
  start ++ parts.filterMap componentOf

/-- Whether two paths have the same components. -/
def same (first second : Path) : Bool := first.components == second.components

/-- A path under a base; an absolute path stands for itself. -/
def join (base path : Path) : Path :=
  if path.isAbsolute then path
  else if base.text.isEmpty || Text.endsWith base.text "/" then ⟨base.text ++ path.text⟩
  else ⟨base.text ++ "/" ++ path.text⟩

/-- Whether a part at the end of a path is no component; the last of all parts is one if it is a
dot. -/
def isSkipped (absolute : Bool) (part : String) (isFirst : Bool) : Bool :=
  part.isEmpty || part == "." && (absolute || !isFirst)

/-- Parts in reverse order without those at their start that are no components. -/
def dropSkipped (absolute : Bool) : List String → List String
  | [] => []
  | part :: rest =>
      if isSkipped absolute part rest.isEmpty then dropSkipped absolute rest else part :: rest

/-- The path without its last component. -/
def parent? (path : Path) : Option Path :=
  let absolute := path.isAbsolute
  let body := if absolute then String.ofList (path.text.toList.drop 1) else path.text
  match dropSkipped absolute (Text.split '/' body).reverse with
  | [] => none
  | _ :: rest =>
      let kept := String.intercalate "/" (dropSkipped absolute rest).reverse
      some ⟨if absolute then "/" ++ kept else kept⟩

/-- The name at the end of a path. -/
def fileName? (path : Path) : Option String :=
  match path.components.getLast? with
  | some (.name text) => some text
  | _ => none

/-- What follows the last dot of the name; a dot at its start does not count. -/
def extension? (path : Path) : Option String :=
  match path.fileName? with
  | none => none
  | some name =>
      let reversed := name.toList.reverse
      match reversed.dropWhile (· != '.') with
      | [] => none
      | [_] => none
      | _ => some (String.ofList (reversed.takeWhile (· != '.')).reverse)

end Path

end ApiContract
