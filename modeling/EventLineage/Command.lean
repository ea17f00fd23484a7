import EventLineage.Message
import EventLineage.Origin

/-! # Commands: requests for a change

A command never changes once it has been issued. -/
namespace EventLineage

structure CommandContext where
  actorContext : ActorContext
  /-- The version of the aggregate that the issuer saw, if any. -/
  targetVersion : Option UInt64
  deriving Repr, DecidableEq

structure Command where
  id : CommandId
  message : Message
  context : CommandContext
  deriving BEq

namespace Command

def ofMessage (id : CommandId) (message : Message) (actorContext : ActorContext) : Command :=
  ⟨id, message, ⟨actorContext, none⟩⟩

def withTargetVersion (c : Command) (version : UInt64) : Command :=
  { c with context := { c.context with targetVersion := some version } }

/-- The origin of what this command causes: a chain of one link. -/
def asOrigin (c : Command) : Origin :=
  .ofLink ⟨⟨.command c.id, c.message.typeUrl⟩, c.context.actorContext⟩ none

end Command

/-! ## JSON forms -/

def CommandContext.codec : Codec CommandContext :=
  (Codec.record "CommandContext" (.field "actor_context" ActorContext.codec
    (.field "target_version" Codec.unsigned64.optional .none))).map
    (fun r => ⟨r.1, r.2.1⟩) fun c => (c.actorContext, c.targetVersion, ())

def Command.codec : Codec Command :=
  (Codec.record "Command" (.field "id" Identifier.codec (.field "message" Message.codec
    (.field "context" CommandContext.codec .none)))).map
    (fun r => ⟨r.1, r.2.1, r.2.2.1⟩) fun c => (c.id, c.message, c.context, ())

end EventLineage
