import ApiContract.Unicode.Category
import ApiContract.Unicode.Table.Age
import ApiContract.Unicode.Table.Break
import ApiContract.Unicode.Table.Property
import ApiContract.Unicode.Table.Script

/-
This file finds the sets of characters that patterns name by their properties. Names are compared
without case, spaces, hyphens and underscores. Patterns know the characters of version 16 of the
standard; those of later versions count as unassigned.
-/

namespace ApiContract.Unicode

/-- A name without case, spaces, hyphens and underscores, and without a leading `is`. Characters
beyond ASCII are dropped. -/
def looseName (name : List Char) : String :=
  let starts := (name.take 2).map Char.toLower = ['i', 's']
  let letters :=
    ((if starts then name.drop 2 else name).filter fun letter =>
      letter.toNat < 128 && !" -_".toList.contains letter).map Char.toLower
  String.ofList (if starts ∧ letters = ['c'] then ['i', 's', 'c'] else letters)

/-- The versions of the code points. -/
def ageMap : CodeMap := tableMap ageTable

/-- The newest version that patterns know. -/
def knownVersion : Nat × Nat := (16, 0)

def isUpTo (bound : Nat × Nat) (version : Nat × Nat) : Bool :=
  version.1 < bound.1 || (version.1 == bound.1 && version.2 ≤ bound.2)

/-- The code points of all versions up to a given one. -/
def agedUpTo (bound : Nat × Nat) : CodeSet :=
  (ageMap.preimage fun index => versions[index]?.any (isUpTo bound)).inter CodeSet.characters

def known : CodeSet := agedUpTo knownVersion

/-- The characters of some categories, as far as patterns know them. One letter became caseless in a
later version. -/
def assignedSet (accepts : Category → Bool) : CodeSet :=
  let pharyngeal := CodeSet.single 0x295
  let found := categoryMap.preimage fun index => (Category.all[index]?).any accepts
  let kept := (found.inter known).diff pharyngeal
  if accepts .lowercaseLetter then kept.union pharyngeal else kept

/-- The characters of some categories; the unassigned ones are those of no other category. -/
def categorySet (accepts : Category → Bool) : CodeSet :=
  if accepts .unassigned then (assignedSet fun found => !accepts found).complement
  else assignedSet accepts

/-- The general categories and their unions, by name. -/
def categoryTest? (name : String) : Option (Category → Bool) :=
  match name with
  | "l" | "letter" => some (·.isLetter)
  | "lc" | "casedletter" =>
      some fun found =>
        found == .uppercaseLetter || found == .lowercaseLetter || found == .titlecaseLetter
  | "lu" | "uppercaseletter" => some (· == .uppercaseLetter)
  | "ll" | "lowercaseletter" => some (· == .lowercaseLetter)
  | "lt" | "titlecaseletter" => some (· == .titlecaseLetter)
  | "lm" | "modifierletter" => some (· == .modifierLetter)
  | "lo" | "otherletter" => some (· == .otherLetter)
  | "m" | "mark" | "combiningmark" => some (·.isMark)
  | "mn" | "nonspacingmark" => some (· == .nonspacingMark)
  | "mc" | "spacingmark" => some (· == .spacingMark)
  | "me" | "enclosingmark" => some (· == .enclosingMark)
  | "n" | "number" => some (·.isNumber)
  | "nd" | "decimalnumber" | "digit" => some (· == .decimalNumber)
  | "nl" | "letternumber" => some (· == .letterNumber)
  | "no" | "othernumber" => some (· == .otherNumber)
  | "p" | "punctuation" | "punct" => some (·.isPunctuation)
  | "pc" | "connectorpunctuation" => some (· == .connectorPunctuation)
  | "pd" | "dashpunctuation" => some (· == .dashPunctuation)
  | "ps" | "openpunctuation" => some (· == .openPunctuation)
  | "pe" | "closepunctuation" => some (· == .closePunctuation)
  | "pi" | "initialpunctuation" => some (· == .initialPunctuation)
  | "pf" | "finalpunctuation" => some (· == .finalPunctuation)
  | "po" | "otherpunctuation" => some (· == .otherPunctuation)
  | "s" | "symbol" => some (·.isSymbol)
  | "sm" | "mathsymbol" => some (· == .mathSymbol)
  | "sc" | "currencysymbol" => some (· == .currencySymbol)
  | "sk" | "modifiersymbol" => some (· == .modifierSymbol)
  | "so" | "othersymbol" => some (· == .otherSymbol)
  | "z" | "separator" => some (·.isSeparator)
  | "zs" | "spaceseparator" => some (· == .spaceSeparator)
  | "zl" | "lineseparator" => some (· == .lineSeparator)
  | "zp" | "paragraphseparator" => some (· == .paragraphSeparator)
  | "c" | "other" => some (·.isOther)
  | "cc" | "control" | "cntrl" => some (· == .control)
  | "cf" | "format" => some (· == .format)
  | "co" | "privateuse" => some (· == .privateUse)
  | "cn" | "unassigned" => some (· == .unassigned)
  | _ => none

/-- The entry of a list that has a name. -/
def findNamed {α : Type} (entries : List (String × List String × α)) (name : String) : Option α :=
  (entries.find? fun entry => entry.1 == name || entry.2.1.contains name).map (·.2.2)

/-- The set of a category name, or of one of three names for larger sets. -/
def namedCategory? (name : String) : Option CodeSet :=
  match name with
  | "any" => some CodeSet.characters
  | "assigned" => some (categorySet (· == .unassigned)).complement
  | "ascii" => some (CodeSet.ofRange 0 127)
  | _ => (categoryTest? name).map categorySet

def namedScript? (name : String) : Option CodeSet :=
  (findNamed scriptTables name).map fun tables => tableSet tables.1

/-- The characters that no single script owns but some scripts use. -/
def sharedCharacters : CodeSet :=
  CodeSet.ofList (scriptTables.map fun entry => tableSet entry.2.2.2)

/-- The characters that a script uses. Characters that are common to all scripts are those that no
list of scripts uses. -/
def namedExtension? (name : String) : Option CodeSet :=
  (findNamed scriptTables name).map fun tables =>
    let own := tableSet tables.1
    if name ∈ ["common", "zyyy", "inherited", "zinh", "qaai"] then own.diff sharedCharacters
    else own.union (tableSet tables.2)

/-- The names of a version: with a point, or after the letter `v` without one. -/
def versionNames (version : Nat × Nat) : List String :=
  let (major, minor) := (toString version.1, toString version.2)
  [major ++ "." ++ minor, "v" ++ major ++ minor]

def namedVersion? (name : String) : Option CodeSet :=
  ((versions.filter (isUpTo knownVersion)).find? fun version =>
    (versionNames version).contains name).map agedUpTo

/-- The set of a property without a value. -/
def namedSet? (name : List Char) : Option CodeSet :=
  let name := looseName name
  match findNamed propertyTables name with
  | some table => some (tableSet table)
  | none => namedCategory? name <|> namedScript? name

/-- The set of a property with a value. -/
def valuedSet? (name value : List Char) : Option CodeSet :=
  let value := looseName value
  match looseName name with
  | "gc" | "generalcategory" => namedCategory? value
  | "sc" | "script" => namedScript? value
  | "scx" | "scriptextensions" => namedExtension? value
  | "age" => namedVersion? value
  | "gcb" | "graphemeclusterbreak" => (findNamed graphemeBreakTables value).map tableSet
  | "wb" | "wordbreak" => (findNamed wordBreakTables value).map tableSet
  | "sb" | "sentencebreak" => (findNamed sentenceBreakTables value).map tableSet
  | _ => none

/-- The digits that patterns know. -/
def digitSet : CodeSet := categorySet (· == .decimalNumber)

/-- The characters of words: letters, marks, digits, connectors and the two joiners. -/
def wordSet : CodeSet :=
  CodeSet.ofList
    [(namedSet? "alphabetic".toList).getD .empty, categorySet (·.isMark), digitSet,
      categorySet (· == .connectorPunctuation), CodeSet.ofRange 0x200C 0x200D]

/-- The characters of white space. -/
def spaceSet : CodeSet := CodeSet.ofRanges whiteSpace

end ApiContract.Unicode
