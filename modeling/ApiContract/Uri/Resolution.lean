import ApiContract.Uri.Reader

/-
This file resolves references against the identifier of the document that they stand in, and brings
identifiers into normal form.
-/

namespace ApiContract.Uri

/-- A path without its last segment. -/
def directory (path : List Char) : List Char := (path.reverse.dropWhile (· != '/')).reverse

/-- Whether a segment is a given number of dots; a dot may be escaped. -/
def isDots : Nat → List Char → Bool
  | 0, segment => segment.isEmpty
  | count + 1, '.' :: rest => isDots count rest
  | count + 1, '%' :: '2' :: letter :: rest => letter.toLower == 'e' && isDots count rest
  | _, _ => false

/-- Adds segments to a path that ends with a slash. One dot adds nothing, and two dots take the last
segment away. -/
def addSegments (path : List Char) : List (List Char) → List Char
  | [] => path
  | [segment] =>
      if isDots 1 segment then path
      else if isDots 2 segment then if path.length ≤ 1 then path else directory path.dropLast
      else path ++ segment
  | segment :: rest =>
      if isDots 1 segment then addSegments path rest
      else if isDots 2 segment then
        addSegments (if path.length ≤ 1 then path else directory path.dropLast) rest
      else addSegments (path ++ segment ++ ['/']) rest

/-- An absolute path without segments of dots; other paths stay as they are. -/
def withoutDots (path : List Char) : List Char :=
  match path with
  | '/' :: rest => addSegments ['/'] (Text.splitAt '/' rest)
  | _ => path

/-- A path that does not look like an authority where there is none. -/
def guarded (authority : Option Authority) (path : List Char) : List Char :=
  if authority.isNone ∧ ['/', '/'].isPrefixOf path then '/' :: '.' :: path else path

/-- Why a reference has no target. -/
inductive ResolutionFault where
  | baseWithFragment
  | opaqueBase
  deriving DecidableEq, Repr

def ResolutionFault.message : ResolutionFault → String
  | baseWithFragment => "base URI/IRI with fragment"
  | opaqueBase =>
      "relative reference must be empty or start with '#' when resolved against " ++
        "authority-less base URI/IRI with rootless path"

/-- The path of a reference under the path of its base. -/
def merged (base : Uri) (path : List Char) : List Char :=
  if path.head? = some '/' then path
  else if base.authority.isSome ∧ base.path.isEmpty then '/' :: path
  else directory base.path ++ path

/-- The target of a reference under a base with a scheme. -/
def target (base reference : Uri) : Uri :=
  if reference.scheme.isSome then { reference with path := withoutDots reference.path }
  else if reference.authority.isSome then
    { reference with scheme := base.scheme, path := withoutDots reference.path }
  else if reference.path.isEmpty then
    { base with query := reference.query <|> base.query, fragment := reference.fragment }
  else
    { reference with
      scheme := base.scheme
      authority := base.authority
      path := withoutDots (merged base reference.path) }

/-- Resolves a reference. A base without an authority and without a leading slash has no places for
relative references. -/
def resolve (base reference : Uri) : Except ResolutionFault Uri :=
  let relative := reference.scheme.isNone && reference.characters.head?.any (· != '#')
  if base.fragment.isSome then .error .baseWithFragment
  else if base.authority.isNone ∧ base.path.head? ≠ some '/' ∧ relative then .error .opaqueBase
  else
    let found := target base reference
    .ok { found with path := guarded found.authority found.path }

/-- A part with upper-case escapes and without needless ones. -/
def normalPart (change : Char → Char) : List Char → List Char
  | '%' :: first :: second :: rest =>
      let code := (Text.hexValue? first).getD 0 * 16 + (Text.hexValue? second).getD 0
      let character := Char.ofNat code
      if code < 128 ∧ isUnreserved character then change character :: normalPart change rest
      else '%' :: first.toUpper :: second.toUpper :: normalPart change rest
  | character :: rest => change character :: normalPart change rest
  | [] => []

def Authority.normal (authority : Authority) : Authority :=
  { user := authority.user.map (normalPart id)
    host := normalPart Char.toLower authority.host
    port := authority.port.filter (!·.isEmpty) }

/-- The normal form of a reference: no needless escapes, lower-case schemes and hosts, no empty
port, and with a scheme no dots in a path that starts with a slash. -/
def normal (reference : Uri) : Uri :=
  let authority := reference.authority.map Authority.normal
  let path := normalPart id reference.path
  { scheme := reference.scheme.map (·.map Char.toLower)
    authority := authority
    path := guarded authority (if reference.scheme.isSome then withoutDots path else path)
    query := reference.query.map (normalPart id)
    fragment := reference.fragment.map (normalPart id) }

/-- The identifier of documents that have none. -/
def root : Uri := ⟨some "json-schema".toList, some ⟨none, [], none⟩, ['/'], none, none⟩

end ApiContract.Uri
