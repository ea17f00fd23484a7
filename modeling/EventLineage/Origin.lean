import EventLineage.Actor
import EventLineage.Json.Choice

/-! # Origins: the chain of messages that led to an event

Every event records the command or event that caused it. An event made in reaction to another event
keeps the origin of that event behind the new link, so a chain leads from the nearest cause back to
the command that started it all. A chain has at least one link and is written as a flat list,
nearest link first. -/
namespace EventLineage

inductive MessageId where
  | command (id : CommandId)
  | event (id : EventId)
  deriving Repr, DecidableEq

/-- The message that caused something: which one it is, and its type. -/
structure MessageRef where
  id : MessageId
  typeUrl : String
  deriving Repr, DecidableEq

/-- One message of a chain, with the actor who sent it. -/
structure OriginLink where
  message : MessageRef
  actorContext : ActorContext
  deriving Repr, DecidableEq

structure Origin where
  nearest : OriginLink
  earlier : List OriginLink
  deriving Repr, DecidableEq

namespace Origin

/-- A chain that starts anew, or goes on with the chain of the cause. -/
def ofLink (link : OriginLink) : Option Origin → Origin
  | none => ⟨link, []⟩
  | some o => ⟨link, o.nearest :: o.earlier⟩

def links (o : Origin) : List OriginLink := o.nearest :: o.earlier

def ofLinks? : List OriginLink → Option Origin
  | [] => none
  | link :: rest => some ⟨link, rest⟩

/-- The chain behind the nearest link, if there is one. -/
def grandOrigin (o : Origin) : Option Origin := ofLinks? o.earlier

def depth (o : Origin) : Nat := o.links.length

/-- The link of the message that started it all. -/
def root (o : Origin) : OriginLink := o.links.getLast (List.cons_ne_nil _ _)

@[simp] theorem links_ofLink (link : OriginLink) (o : Origin) :
    (ofLink link (some o)).links = link :: o.links := rfl

@[simp] theorem grandOrigin_ofLink (link : OriginLink) (o : Option Origin) :
    (ofLink link o).grandOrigin = o := by
  cases o <;> rfl

theorem links_of_ofLinks? {links : List OriginLink} {o : Origin} (h : ofLinks? links = some o) :
    o.links = links := by
  cases links with
  | nil => simp [ofLinks?] at h
  | cons link rest => cases h; rfl

theorem ofLink_nearest_grandOrigin (o : Origin) : ofLink o.nearest o.grandOrigin = o := by
  obtain ⟨nearest, earlier⟩ := o
  cases earlier <;> rfl

end Origin

/-! ## JSON forms -/

def MessageId.tagging : Codec.Tagging MessageId where
  name := "MessageId"
  tag := "kind"
  content := "id"
  spellings :=
    [("command", Identifier.wording.toTextForm.map .command),
      ("event", Identifier.wording.toTextForm.map .event)]
  split
    | .command i => ("command", i.text)
    | .event i => ("event", i.text)

def MessageId.codec : Codec MessageId := Codec.tagged tagging

def MessageRef.codec : Codec MessageRef :=
  (Codec.record "MessageRef" (.field "id" MessageId.codec (.field "type_url" .string .none))).map
    (fun r => ⟨r.1, r.2.1⟩) fun m => (m.id, m.typeUrl, ())

def OriginLink.codec : Codec OriginLink :=
  (Codec.record "OriginLink" (.field "message" MessageRef.codec
    (.field "actor_context" ActorContext.codec .none))).map
    (fun r => ⟨r.1, r.2.1⟩) fun l => (l.message, l.actorContext, ())

namespace Origin

def emptyChain : String := "origin chain must contain at least one link"

def codec : Codec Origin :=
  OriginLink.codec.list.checked
    (fun links => match ofLinks? links with
      | some o => .ok o
      | none => .error emptyChain)
    links

end Origin
end EventLineage
