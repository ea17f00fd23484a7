/-! # Log records

A record has a level, the name of the part of the program that it comes from, a message, and named
fields. -/
namespace EventLineage.Log

inductive Level where
  | trace
  | debug
  | info
  | warn
  | error
  deriving Repr, DecidableEq

namespace Level

def name : Level → String
  | .trace => "TRACE"
  | .debug => "DEBUG"
  | .info => "INFO"
  | .warn => "WARN"
  | .error => "ERROR"

/-- How much has to be let through for a record of this level to be: errors come first. -/
def rank : Level → Nat
  | .error => 1
  | .warn => 2
  | .info => 3
  | .debug => 4
  | .trace => 5

end Level

inductive Value where
  | text (s : String)
  | number (n : Nat)
  | flag (b : Bool)
  deriving Repr, DecidableEq

structure Record where
  level : Level
  target : String
  message : String
  fields : List (String × Value) := []
  deriving Repr, DecidableEq

/-- The names of the fields; the message is one of them. -/
def Record.fieldNames (r : Record) : List String := "message" :: r.fields.map (·.1)

end EventLineage.Log
