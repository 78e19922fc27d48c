/-
This file holds references to resources in their parts. The parts keep their text, so that writing a
reference gives the text that was read.
-/

namespace ApiContract

/-- What names the server of a resource. -/
structure Authority where
  user : Option (List Char)
  host : List Char
  port : Option (List Char)
  deriving DecidableEq, Repr

/-- A reference; with a scheme it is an identifier. -/
structure Uri where
  scheme : Option (List Char)
  authority : Option Authority
  path : List Char
  query : Option (List Char)
  fragment : Option (List Char)
  deriving DecidableEq, Repr

def Authority.text (authority : Authority) : List Char :=
  authority.user.elim [] (· ++ ['@']) ++ authority.host ++ authority.port.elim [] (':' :: ·)

namespace Uri

def characters (reference : Uri) : List Char :=
  reference.scheme.elim [] (· ++ [':']) ++
    reference.authority.elim [] (fun authority => '/' :: '/' :: authority.text) ++
    reference.path ++ reference.query.elim [] ('?' :: ·) ++ reference.fragment.elim [] ('#' :: ·)

def text (reference : Uri) : String := String.ofList reference.characters

def isUnreserved (character : Char) : Bool :=
  character.isAlphanum || "-._~".toList.contains character

def isDelimiter (character : Char) : Bool := "!$&'()*+,;=".toList.contains character

/-- The characters beyond ASCII of the wide form. -/
def isWide (character : Char) : Bool :=
  let code := character.toNat
  (0xA0 ≤ code && code ≤ 0xD7FF) || (0xF900 ≤ code && code ≤ 0xFDCF) ||
    (0xFDF0 ≤ code && code ≤ 0xFFEF) ||
    (0x10000 ≤ code && code ≤ 0xEFFFD && code % 0x10000 ≤ 0xFFFD &&
      !(0xE0000 ≤ code && code ≤ 0xE0FFF))

/-- The characters for private use, which queries of the wide form may have. -/
def isPrivate (character : Char) : Bool :=
  let code := character.toNat
  (0xE000 ≤ code && code ≤ 0xF8FF) || (0xF0000 ≤ code && code % 0x10000 ≤ 0xFFFD)

def isSchemeCharacter (character : Char) : Bool :=
  character.isAlphanum || "+-.".toList.contains character

/-- The parts in which different characters are allowed. -/
inductive Part where
  | name
  | user
  | firstSegment
  | path
  | query
  | fragment
  deriving DecidableEq, Repr

/-- Whether a character may stand for itself in a part. -/
def Part.allows (wide : Bool) (part : Part) (character : Char) : Bool :=
  isUnreserved character || isDelimiter character || (wide && isWide character) ||
    match part with
    | name => false
    | user => character == ':'
    | firstSegment => character == '@'
    | path => ":@/".toList.contains character
    | query => ":@/?".toList.contains character || (wide && isPrivate character)
    | fragment => ":@/?".toList.contains character

end Uri

end ApiContract
