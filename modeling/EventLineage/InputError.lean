/-! # Errors in what is handed in

An identifier that cannot be read, a payload that has no JSON form or does not fit its type, and a
message of another type than the one asked for. -/
namespace EventLineage

inductive InputError where
  | invalidId (reason : String)
  | serialization (reason : String)
  | typeMismatch (expected actual : String)
  deriving Repr, DecidableEq

namespace InputError

def text : InputError → String
  | .invalidId reason => s!"invalid identifier: {reason}"
  | .serialization reason => s!"serialization failed: {reason}"
  | .typeMismatch expected actual => s!"type mismatch (expected: {expected}, actual: {actual})"

/-- The name of the kind of error. -/
def kind : InputError → String
  | .invalidId _ => "InvalidId"
  | .serialization _ => "Serialization"
  | .typeMismatch _ _ => "TypeMismatch"

end InputError
end EventLineage
