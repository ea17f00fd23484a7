import EventLineage.Identifier
import EventLineage.Instant
import EventLineage.Json.Record

/-! # Actors

Who issued a request, on behalf of which tenant, and when. -/
namespace EventLineage

/-- How instants are spelled in JSON. -/
def Instant.wording : Wording Instant where
  expected := "an RFC 3339 formatted date and time string"
  print := Instant.text
  parse s :=
    match Instant.parse s with
    | .ok t => .ok t
    | .error fault => .error fault.text

def Instant.codec : Codec Instant := Instant.wording.codec

structure ActorContext where
  actor : UserId
  tenant : Option TenantId
  timestamp : Instant
  deriving Repr, DecidableEq

def ActorContext.codec : Codec ActorContext :=
  (Codec.record "ActorContext" (.field "actor" Identifier.codec
    (.field "tenant_id" Identifier.codec.optional (.field "timestamp" Instant.codec .none)))).map
    (fun r => ⟨r.1, r.2.1, r.2.2.1⟩) fun a => (a.actor, a.tenant, a.timestamp, ())

end EventLineage
