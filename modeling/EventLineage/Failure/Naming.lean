import EventLineage.Text.Alphanumeric

/-! # Names of errors

The types of some everyday errors are known by name. An error whose type is not known is named by
the beginning of its form for diagnosis: letters, digits, underscores and colons. A quoted text is
an error that was made of a text alone. -/
namespace EventLineage

/-- The errors whose types are known by name. -/
inductive Familiar where
  | system
  | writing
  | integer
  | float
  | conversion
  | truth
  | utf8
  | ownedUtf8
  | json
  | uuid
  | instant
  | input
  | defect
  deriving Repr, DecidableEq

def Familiar.name : Familiar → String
  | .system => "std::io::Error"
  | .writing => "std::fmt::Error"
  | .integer => "std::num::ParseIntError"
  | .float => "std::num::ParseFloatError"
  | .conversion => "std::num::TryFromIntError"
  | .truth => "std::str::ParseBoolError"
  | .utf8 => "std::str::Utf8Error"
  | .ownedUtf8 => "std::string::FromUtf8Error"
  | .json => "serde_json::Error"
  | .uuid => "uuid::Error"
  | .instant => "chrono::ParseError"
  | .input => "causa_core::CoreError"
  | .defect => "causa_events::UnwrapError"

namespace Naming
open Text

def inName (c : Char) : Bool := isAlphanumeric c || c == '_' || c == ':'

def unnamed : String := "<unnamed error>"

def ofText : String := "String"

/-- The name that a form for diagnosis begins with. -/
def ofDebug (debug : String) : String :=
  let name := debug.toList.takeWhile inName
  if debug.toList.head? = some '"' then ofText
  else if name.isEmpty then unnamed
  else String.ofList name

end Naming
end EventLineage
