import EventLineage.Message
import EventLineage.Producer

/-! # Rejections: refusals that a business rule asked for

A rejection carries the message that tells of the refusal, the entity that refused, if it is known,
and a trace for diagnosis. The trace is made together with the rejection, so it tells of the
rejection itself and never of an error in which it is wrapped later. -/
namespace EventLineage

structure Rejection where
  typeName : String
  message : Message
  producer : Option Producer
  trace : String
  deriving Inhabited

namespace Trace

/-- The most causes that a trace lists. -/
def causeLimit : Nat := 32

def entry (index : Nat) (cause : String) : String := s!"\n    {index}: {cause}"

/-- The causes with their indices, one on a line. -/
def entries : Nat → List String → String
  | _, [] => ""
  | index, cause :: rest => entry index cause ++ entries (index + 1) rest

def causesText (causes : List String) : String :=
  if causes.isEmpty then "" else "\n\nCaused by:" ++ entries 0 (causes.take causeLimit)

def callsText (calls : String) : String := "\n\nStack backtrace:\n" ++ calls

/-- The trace of a rejection of a type, with its text, the texts of its causes, and the calls that
led to it. -/
def withCalls (typeName display : String) (causes : List String) (calls : String) : String :=
  s!"{typeName}: {display}" ++ causesText causes ++ callsText calls

/-- What is said where the calls would stand when they are not recorded. -/
def unrecorded : String := "disabled backtrace"

/-- The trace of a rejection when calls are not recorded. -/
def text (typeName display : String) (causes : List String) : String :=
  withCalls typeName display causes unrecorded

end Trace
end EventLineage
