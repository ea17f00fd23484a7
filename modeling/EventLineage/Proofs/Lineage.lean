import EventLineage.Proofs.Storage.Events

/-! # The causes of an event, back to the command

A command leads to events: the one that tells of its refusal, those that are made for it, and those
that are made in reaction to any of these, in any number of steps. Each of them records all that led
to it: one link for each event on the way, the nearest first, and the command as the last one, each
with the actor of the command. Storing an event on the way and going on from what is loaded makes no
difference. -/
namespace EventLineage

/-- An event maker with this origin made the event. -/
inductive Event.MadeFrom (o : Origin) : Event → Prop
  | event {σ ν : Type} (m : EventMaker σ ν) (origin : m.origin = o) (message : Message)
    (version : Option Version) {s t : σ} {event : Event}
    (h : m.event message version s = (.ok event, t)) : MadeFrom o event
  | rejection {σ ν : Type} (m : EventMaker σ ν) (origin : m.origin = o) (message : Message)
    {context : RejectionContext} (made : context.Made) {s t : σ} {event : Event}
    (h : m.rejection message context s = (.ok event, t)) : MadeFrom o event

/-- The event itself, or what is loaded of it after it has been stored. -/
inductive Event.Copy (e : Event) : Event → Prop
  | same : Copy e e
  | loaded {copy : Event} (dated : e.Dated)
    (h : Event.codec.fromValue (Event.codec.toValue e) = .ok copy) : Copy e copy

/-- The command leads to an event through these ancestors, the nearest first. A reaction starts from
an event or from a copy of it. -/
inductive Command.Leads (c : Command) : List Event → Event → Prop
  | refused {σ ν : Type} [DecidableEq ν] (f : Refuser σ ν) (g : CauseGraph ν)
    (made : ∀ e r, g.rejection e = some r → r.Made) {entry : Entry} {failure : ν} {s : σ}
    {event : Event} (h : (f.refuse g c entry failure s).result = .ok event) : Leads c [] event
  | caused {event : Event} (made : event.MadeFrom c.asOrigin) : Leads c [] event
  | reaction {ancestors : List Event} {e copy event : Event} (earlier : Leads c ancestors e)
    (copied : e.Copy copy) (made : event.MadeFrom copy.asOrigin) : Leads c (e :: ancestors) event

/-- One link for each ancestor and one for the command, all with the actor of the command. -/
def Command.lineage (c : Command) (ancestors : List Event) : List OriginLink :=
  ancestors.map (fun e => ⟨⟨.event e.id, e.message.typeUrl⟩, c.context.actorContext⟩) ++
    [⟨⟨.command c.id, c.message.typeUrl⟩, c.context.actorContext⟩]

variable {c : Command} {ancestors : List Event} {e copy : Event} {o : Origin}

theorem Command.links_asOrigin : c.asOrigin.links = c.lineage [] := rfl

theorem Command.actorContext_of_mem_lineage {l : OriginLink} (h : l ∈ c.lineage ancestors) :
    l.actorContext = c.context.actorContext := by
  rcases List.mem_append.1 h with event | command
  · obtain ⟨a, -, rfl⟩ := List.mem_map.1 event
    rfl
  · rw [List.mem_singleton.1 command]

/-! ## One event -/

theorem Event.MadeFrom.origin_eq (h : e.MadeFrom o) : e.origin = o := by
  cases h with
  | event m origin message version h => rw [Event.origin, Assembler.context_of_assemble h, origin]
  | rejection m origin message made h => rw [Event.origin, Assembler.context_of_assemble h, origin]

theorem Event.MadeFrom.built (h : e.MadeFrom o) : e.Built := by
  cases h with
  | event m origin message version h => exact .event m message version h
  | rejection m origin message made h => exact .rejection m message made h

theorem Command.Leads.built (h : c.Leads ancestors e) : e.Built := by
  cases h with
  | refused f g made h => exact .refused f g made h
  | caused made => exact made.built
  | reaction earlier copied made => exact made.built

theorem Event.Built.fromValue_toValue (h : e.Built) (dated : e.Dated) :
    Event.codec.fromValue (Event.codec.toValue e) = .ok e :=
  (dated.keeps h.traced).fromValue_toValue

/-- A copy is no other than the event. -/
theorem Event.Copy.eq (h : e.Copy copy) (built : e.Built) : copy = e := by
  cases h with
  | same => rfl
  | loaded dated h =>
    rw [built.fromValue_toValue dated] at h
    cases h
    rfl

/-- The nearest link hands its actor on to the new one. -/
theorem Event.links_asOrigin (h : e.origin.links = c.lineage ancestors) :
    e.asOrigin.links = c.lineage (e :: ancestors) := by
  have nearest : e.origin.nearest ∈ e.origin.links := List.mem_cons_self
  rw [h] at nearest
  rw [Event.asOrigin, Origin.links_ofLink, c.actorContext_of_mem_lineage nearest, h]
  rfl

/-! ## All events that a command leads to -/

theorem Command.Leads.links_eq (h : c.Leads ancestors e) :
    e.origin.links = c.lineage ancestors := by
  induction h with
  | refused f g made h =>
    obtain ⟨-, r, id, -, time, -, -, -, -, rfl⟩ := Refuser.exists_of_refuse_eq_ok h
    exact c.links_asOrigin
  | caused made =>
    rw [made.origin_eq]
    exact c.links_asOrigin
  | reaction earlier copied made ih =>
    rw [made.origin_eq, copied.eq earlier.built]
    exact Event.links_asOrigin ih

/-- An event to which a command leads through some ancestors records them all and the command, each
with the actor of the command. What is loaded of it after it has been stored is the event. -/
theorem Command.Leads.records_lineage (h : c.Leads ancestors e) :
    e.origin.links =
      ancestors.map (fun a => ⟨⟨.event a.id, a.message.typeUrl⟩, c.context.actorContext⟩) ++
        [⟨⟨.command c.id, c.message.typeUrl⟩, c.context.actorContext⟩] ∧
    (∀ l ∈ e.origin.links, l.actorContext = c.context.actorContext) ∧
    e.origin.depth = ancestors.length + 1 ∧
    e.origin.root = ⟨⟨.command c.id, c.message.typeUrl⟩, c.context.actorContext⟩ ∧
    (e.Dated → Event.codec.fromValue (Event.codec.toValue e) = .ok e) := by
  have links := h.links_eq
  refine ⟨links, fun l hl => ?_, ?_, ?_, fun dated => h.built.fromValue_toValue dated⟩
  · rw [links] at hl
    exact c.actorContext_of_mem_lineage hl
  · rw [Origin.depth, links, Command.lineage, List.length_append, List.length_map,
      List.length_singleton]
  · simp only [Origin.root, links, Command.lineage, List.getLast_concat]

/-! The refused withdrawal again. Its event is stored and loaded, a notice is made in reaction to
what was loaded, and an alert in reaction to the notice. -/

namespace Withdrawal

/-- Makes events in reaction to an event. -/
def reacting (id : Nat) (cause : Event) : EventMaker Unit Unit :=
  ⟨⟨.constant (.ofNat id), .constant noon⟩, cause.asOrigin, .unknown⟩

def reaction (id : Nat) (typeUrl : String) (cause : Event) : Event :=
  ⟨.ofNat id, ⟨typeUrl, .ofJson .null⟩, ⟨cause.asOrigin, .unknown, .plain⟩, noon⟩

def notice : Event := reaction 2 "bank.Notified" event

def alert : Event := reaction 3 "bank.Alerted" notice

theorem madeFrom_reaction (id : Nat) (typeUrl : String) (cause : Event) :
    (reaction id typeUrl cause).MadeFrom cause.asOrigin :=
  .event (s := ()) (t := ()) (reacting id cause) rfl ⟨typeUrl, .ofJson .null⟩ none rfl

end Withdrawal

open Withdrawal in
theorem Command.Leads.records_lineage_withdrawal :
    command.Leads [notice, event] alert ∧ event.Copy event ∧ alert.origin.depth = 3 ∧
    alert.origin.links =
      [⟨⟨.event (.ofNat 2), "bank.Notified"⟩, command.context.actorContext⟩,
       ⟨⟨.event (.ofNat 1), "bank.Overdrawn"⟩, command.context.actorContext⟩,
       ⟨⟨.command (.ofNat 7), "bank.Withdraw"⟩, command.context.actorContext⟩] := by
  have refused : command.Leads [] event := .refused refuser refusing made_refusing refuse_refusing
  have dated : event.Dated := ⟨faithful_noon, storable_event.links, faithful_noon⟩
  have loaded : event.Copy event := .loaded dated (refused.built.fromValue_toValue dated)
  have leads : command.Leads [notice, event] alert :=
    .reaction (.reaction refused loaded (madeFrom_reaction 2 _ event)) .same
      (madeFrom_reaction 3 _ notice)
  obtain ⟨links, -, depth, -, -⟩ := leads.records_lineage
  exact ⟨leads, loaded, depth, links⟩

end EventLineage
