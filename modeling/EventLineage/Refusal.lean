import EventLineage.Assembly
import EventLineage.Settings

/-! # Refusal: the event that tells of a failed command

When a command fails, the rejection that the failure carries becomes an event: its origin is the
command, its producer is the one that the rejection names, its message is that of the rejection, and
its detail holds the command and the trace. A failure that carries no rejection is a defect, and no
event is made of it. Every event made and every defect found is logged. -/
namespace EventLineage

inductive RefusalError (ν : Type) where
  | defect (defect : Defect)
  | assembly (error : AssemblyError ν)
  deriving Repr, DecidableEq

namespace RefusalError

def text (g : CauseGraph ν) : RefusalError ν → String
  | .defect d => d.text
  | .assembly e => e.text g

def sources (g : CauseGraph ν) (limit : Nat) : RefusalError ν → List String
  | .defect _ => []
  | .assembly e => e.sources g limit

end RefusalError

/-- The context of the event that tells of a rejection. -/
def RejectionContext.ofRejection (command : Command) (r : Rejection) : RejectionContext :=
  ⟨command, r.trace⟩

/-- The producer of the event that tells of a rejection: the one that the rejection names, if
any. -/
def Settings.producerOf (s : Settings) (r : Rejection) : Producer :=
  r.producer.getD s.unknownProducer

/-- The event that tells of a rejection, with its identifier and time. -/
def rejectionEvent (settings : Settings) (command : Command) (r : Rejection) (id : EventId)
    (time : Instant) : Event :=
  ⟨id, r.message, ⟨command.asOrigin, settings.producerOf r, .rejection (.ofRejection command r)⟩,
    time⟩

/-- The outcome of a refusal: the event or an error, the state of the collaborators, and what was
logged. -/
structure Refused (σ ν : Type) where
  result : Except (RefusalError ν) Event
  state : σ
  log : List Log.Record

structure Refuser (σ ν : Type) where
  assembler : Assembler σ ν
  settings : Settings

namespace Refuser

variable {σ ν : Type}

def logTarget : String := "causa_events::factory"

def eventLogged (command : Command) (event : Event) (r : Rejection) : Log.Record :=
  ⟨.debug, logTarget, "rejection event assembled",
    [("command_id", .text command.id.text), ("event_id", .text event.id.text),
     ("producer", .text event.producer.name), ("rejection_type", .text r.typeName)]⟩

def defectLogged (command : Command) (d : Defect) : Log.Record :=
  ⟨.warn, logTarget, "command failed with an error that is not a domain rejection",
    [("command_id", .text command.id.text), ("failure", .text d.failure),
     ("actual_type", .text d.actualType), ("end", .text d.ending.name)]⟩

/-- Make the event that tells of a rejection of the command. -/
def eventFor (f : Refuser σ ν) (command : Command) (r : Rejection) :
    σ → Except (AssemblyError ν) Event × σ :=
  EventMaker.rejection
    ⟨f.assembler, command.asOrigin, f.settings.producerOf r⟩
    r.message (.ofRejection command r)

/-- The event asks for its identifier first and for its time after that. -/
theorem eventFor_eq (f : Refuser σ ν) (command : Command) (r : Rejection) (s : σ) :
    f.eventFor command r s =
      match f.assembler.nextId s with
      | (.error e, s) => (.error (.idGeneration e), s)
      | (.ok id, s) =>
        match f.assembler.now s with
        | (.error e, s) => (.error (.clock e), s)
        | (.ok time, s) => (.ok (rejectionEvent f.settings command r id time), s) := rfl

def refuse [DecidableEq ν] (f : Refuser σ ν) (g : CauseGraph ν) (command : Command) (entry : Entry)
    (failure : ν) (s : σ) : Refused σ ν :=
  match g.unwrap entry f.settings.maxCauseDepth.toNat failure with
  | .error d => ⟨.error (.defect d), s, [defectLogged command d]⟩
  | .ok (_, r) =>
    match f.eventFor command r s with
    | (.ok event, s) => ⟨.ok event, s, [eventLogged command event r]⟩
    | (.error e, s) => ⟨.error (.assembly e), s, []⟩

end Refuser
end EventLineage
