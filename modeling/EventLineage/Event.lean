import EventLineage.Command
import EventLineage.Producer

/-! # Events: facts ready to be recorded

An event has an identifier, a message, a time, and a context: the chain of its causes, its producer,
and a detail that depends on what kind of fact it is. That a command was rejected is a fact about
the command and no change of an aggregate, so it never carries a version. -/
namespace EventLineage

/-- The version of the producing aggregate after an event. -/
structure Version where
  number : UInt64
  timestamp : Instant
  deriving Repr, DecidableEq

/-- The command that was rejected, and the trace of the rejection. -/
structure RejectionContext where
  command : Command
  trace : String
  deriving BEq

inductive ContextDetail where
  | plain
  | versioned (version : Version)
  | rejection (context : RejectionContext)
  deriving BEq

structure EventContext where
  origin : Origin
  producer : Producer
  detail : ContextDetail
  deriving BEq

structure Event where
  id : EventId
  message : Message
  context : EventContext
  timestamp : Instant
  deriving BEq

namespace ContextDetail

def name : ContextDetail → String
  | .plain => "plain"
  | .versioned _ => "versioned"
  | .rejection _ => "rejection"

def version? : ContextDetail → Option Version
  | .versioned v => some v
  | _ => none

def rejection? : ContextDetail → Option RejectionContext
  | .rejection r => some r
  | _ => none

end ContextDetail

namespace Event

def origin (e : Event) : Origin := e.context.origin

def producer (e : Event) : Producer := e.context.producer

def version? (e : Event) : Option Version := e.context.detail.version?

def rejection? (e : Event) : Option RejectionContext := e.context.detail.rejection?

def isRejection (e : Event) : Bool := e.rejection?.isSome

/-- The origin of what is done in reaction to this event: one more link in front of its own origin,
with the actor of the nearest one. -/
def asOrigin (e : Event) : Origin :=
  .ofLink ⟨⟨.event e.id, e.message.typeUrl⟩, e.origin.nearest.actorContext⟩ (some e.origin)

end Event

/-! ## JSON forms -/

def Version.codec : Codec Version :=
  (Codec.record "Version" (.field "number" .unsigned64
    (.field "timestamp" Instant.codec .none))).map
    (fun r => ⟨r.1, r.2.1⟩) fun v => (v.number, v.timestamp, ())

namespace RejectionContext

def blankTrace : String := "rejection context must carry a non-empty stacktrace"

/-- A context that is read must have a trace that is not blank. -/
def codec : Codec RejectionContext :=
  (Codec.record "RejectionEventContextRecord" (.field "command" Command.codec
    (.field "stacktrace" .string .none))).checked
    (fun r => if Text.isBlankText r.2.1 then .error blankTrace else .ok ⟨r.1, r.2.1⟩)
    fun c => (c.command, c.trace, ())

end RejectionContext

def ContextDetail.codec : Codec ContextDetail :=
  .choice
    [.plain "plain" .plain,
     .holding "versioned" (Version.codec.toDecoder.map .versioned),
     .holding "rejection" (RejectionContext.codec.toDecoder.map .rejection)]
    fun
      | .plain => .text "plain"
      | .versioned v => .object [("versioned", Version.codec.write v)]
      | .rejection r => .object [("rejection", RejectionContext.codec.write r)]

def EventContext.codec : Codec EventContext :=
  (Codec.record "EventContext" (.field "origin" Origin.codec (.field "producer_id" Producer.codec
    (.field "detail" ContextDetail.codec .none)))).map
    (fun r => ⟨r.1, r.2.1, r.2.2.1⟩) fun c => (c.origin, c.producer, c.detail, ())

def Event.codec : Codec Event :=
  (Codec.record "Event" (.field "id" Identifier.codec (.field "message" Message.codec
    (.field "context" EventContext.codec (.field "timestamp" Instant.codec .none))))).map
    (fun r => ⟨r.1, r.2.1, r.2.2.1, r.2.2.2.1⟩)
    fun e => (e.id, e.message, e.context, e.timestamp, ())

end EventLineage
