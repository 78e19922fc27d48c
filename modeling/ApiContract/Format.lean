import ApiContract.Format.Calendar
import ApiContract.Format.Duration
import ApiContract.Format.Email
import ApiContract.Format.Host.International
import ApiContract.Format.Template
import ApiContract.Pattern.Source
import ApiContract.Uri.Reader

/-
This file names the formats of texts. A format without a test is not checked.
-/

namespace ApiContract.Format

/-- The test of a format, by its name. -/
def test? (name : String) : Option (String → Bool) :=
  match name with
  | "date" => some fun text => isDate text.toList
  | "date-time" => some fun text => isInstant text.toList
  | "time" => some fun text => isTime text.toList
  | "email" => some fun text => isEmail isHost text.toList
  | "idn-email" => some fun text => isEmail isInternationalHost text.toList
  | "hostname" => some fun text => isHost text.toList
  | "idn-hostname" => some fun text => isInternationalHost text.toList
  | "ipv4" => some fun text => isVersion4 text.toList
  | "ipv6" => some fun text => isVersion6 text.toList
  | "uri" => some (Uri.isIdentifier false)
  | "uri-reference" => some (Uri.isReference false)
  | "iri" => some (Uri.isIdentifier true)
  | "iri-reference" => some (Uri.isReference true)
  | "uri-template" => some fun text => isTemplate text.toList
  | "json-pointer" => some fun text => isPointer text.toList
  | "relative-json-pointer" => some fun text => isRelativePointer text.toList
  | "duration" => some fun text => isDuration text.toList
  | "uuid" => some fun text => isUniqueIdentifier text.toList
  | "regex" => some Pattern.isPattern
  | _ => none

end ApiContract.Format
