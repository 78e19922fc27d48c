import ApiContract.Json.Basic
import ApiContract.Text.Basic

/-
This file holds the drafts of the schema language. A schema names its draft, or takes the one of the
schema around it.
-/

namespace ApiContract

/-- The drafts, from the oldest one on. -/
inductive Draft where
  | draft4
  | draft6
  | draft7
  | draft2019
  | draft2020
  deriving DecidableEq, Repr

namespace Draft

def all : List Draft := [draft4, draft6, draft7, draft2019, draft2020]

/-- The place of a draft among all of them. -/
def rank : Draft → Nat
  | draft4 => 0
  | draft6 => 1
  | draft7 => 2
  | draft2019 => 3
  | draft2020 => 4

/-- Whether a draft is not older than another. -/
def since (draft first : Draft) : Bool := first.rank ≤ draft.rank

/-- The start of the names that belong to a draft. -/
def nameStart (draft : Draft) : String :=
  let (scheme, place) :=
    match draft with
    | draft4 => ("http", "draft-04")
    | draft6 => ("http", "draft-06")
    | draft7 => ("http", "draft-07")
    | draft2019 => ("https", "draft/2019-09")
    | draft2020 => ("https", "draft/2020-12")
  scheme ++ ":" ++ "//json-schema.org/" ++ place ++ "/"

/-- The name of a draft. -/
def name (draft : Draft) : String := draft.nameStart ++ "schema"

/-- The draft with a name; number signs at its end do not count. -/
def ofName? (name : String) : Option Draft :=
  all.find? fun draft => draft.name == Text.trimMarkEnd '#' name

/-- Whether a text starts like the names of some draft. -/
def isOwnName (text : String) : Bool := all.any fun draft => Text.startsWith text draft.nameStart

/-- The name of the draft that a schema asks for. -/
def asked? (schema : Json) : Option String := (schema.member? "$schema").bind Json.string?

/-- The draft of a schema inside another; the failure is a name that no draft has. -/
def inside (outer : Draft) (schema : Json) : Except String Draft :=
  match asked? schema with
  | none => .ok outer
  | some name =>
      match ofName? name with
      | some draft => .ok draft
      | none => .error (Text.trimMarkEnd '#' name)

/-- The draft of a schema inside another, where an unknown name stands for the newest one. -/
def insideOrNewest (outer : Draft) (schema : Json) : Draft :=
  match outer.inside schema with
  | .ok draft => draft
  | .error _ => draft2020

end Draft

end ApiContract
