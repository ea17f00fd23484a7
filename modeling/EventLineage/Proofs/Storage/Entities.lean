import EventLineage.Proofs.Json.Retained
import EventLineage.Proofs.Storage.Producers

/-! # Producers that are entities

An aggregate or a user is named by its identifier, so a producer made of one names it and no other,
and the identifier is read back from the name. The name has a hyphen: it is neither blank nor the
name that stands for an unknown producer. An event keeps its producer however often it is stored and
loaded, and whatever becomes of its payloads and instants meanwhile. -/
namespace EventLineage
open Codec Json

/-! ## The producer of an event is retained

Nothing is asked of the other parts, but readers must get behind them. -/

theorem Identifier.retains {kind : IdKind} (i : Identifier kind) :
    Identifier.codec.Retains i fun _ => True :=
  (ReadsBack.retains ⟨i.keeps, trivial⟩).anything

private theorem Identifier.retains_optional {kind : IdKind} (i : Option (Identifier kind)) :
    Identifier.codec.optional.Retains i fun _ => True := by
  have floatFree : (Identifier.codec.optional.write i).FloatFree := by
    cases i <;> trivial
  exact (ReadsBack.retains ⟨keeps_optional i, floatFree⟩).anything

theorem Instant.retains (t : Instant) : Instant.codec.Retains t fun _ => True :=
  (retains_wording Instant.wording t).anything

private theorem retains_unsigned64 (n : UInt64) : unsigned64.Retains n fun _ => True :=
  (ReadsBack.retains ⟨keeps_unsigned64 n, rfl⟩).anything

private theorem retains_optional_unsigned64 (n : Option UInt64) :
    unsigned64.optional.Retains n fun _ => True := by
  have floatFree : (unsigned64.optional.write n).FloatFree := by
    cases n <;> trivial
  exact (ReadsBack.retains ⟨keeps_optional_unsigned64 n, floatFree⟩).anything

theorem ActorContext.retains (a : ActorContext) : ActorContext.codec.Retains a fun _ => True :=
  retains_fields (by decide) (((Fields.retains_none.beside a.timestamp.retains).beside
    (Identifier.retains_optional a.tenant)).beside a.actor.retains)

theorem Message.retains (m : Message) : Message.codec.Retains m fun _ => True :=
  retains_fields (by decide) ((Fields.retains_none.beside (retains_payload m.value)).beside
    (retains_string m.typeUrl).anything)

theorem CommandContext.retains (c : CommandContext) :
    CommandContext.codec.Retains c fun _ => True :=
  retains_fields (by decide) ((Fields.retains_none.beside
    (retains_optional_unsigned64 c.targetVersion)).beside c.actorContext.retains)

theorem Command.retains (c : Command) : Command.codec.Retains c fun _ => True :=
  retains_fields (by decide) (((Fields.retains_none.beside c.context.retains).beside
    c.message.retains).beside c.id.retains)

theorem OriginLink.retains (l : OriginLink) : OriginLink.codec.Retains l fun _ => True := by
  have message := ReadsBack.retains ⟨l.message.keeps, ⟨trivial, trivial, trivial⟩, trivial, trivial⟩
  exact retains_fields (by decide) ((Fields.retains_none.beside l.actorContext.retains).beside
    message.anything)

theorem Origin.retains (o : Origin) : Origin.codec.Retains o fun _ => True := by
  have links := retains_list fun l (_ : l ∈ o.links) => l.retains
  exact links.checked fun _ _ _ _ => trivial

theorem Version.retains (v : Version) : Version.codec.Retains v fun _ => True :=
  retains_fields (by decide) ((Fields.retains_none.beside v.timestamp.retains).beside
    (retains_unsigned64 v.number))

theorem RejectionContext.retains (c : RejectionContext) :
    RejectionContext.codec.Retains c fun _ => True := by
  apply Retains.checked (P := fun _ => True) _ fun _ _ _ _ => trivial
  exact retains_record (by decide)
    ((Fields.retains_none.beside (retains_string c.trace).anything).beside
    c.command.retains)

theorem ContextDetail.retains (d : ContextDetail) :
    ContextDetail.codec.Retains d fun _ => True := by
  cases d with
  | plain =>
    have plain : ContextDetail.codec.Keeps .plain := keeps_plain rfl rfl
    exact (ReadsBack.retains ⟨plain, trivial⟩).anything
  | versioned v => exact v.retains.holding ContextDetail.versioned rfl rfl
  | rejection c => exact c.retains.holding ContextDetail.rejection rfl rfl

theorem Producer.retains (p : Producer) : Producer.codec.Retains p (· = p) :=
  ReadsBack.retains ⟨p.keeps, trivial⟩

theorem EventContext.retains_producer (c : EventContext) :
    EventContext.codec.Retains c fun c' => c'.producer = c.producer := by
  apply Retains.map (P := fun r => r.2.1 = c.producer ∧ True) _ fun r kept => kept.1
  exact retains_record (by decide) (((Fields.retains_none.beside c.detail.retains).required
    c.producer.retains rfl).beside c.origin.retains)

theorem Event.retains_producer (e : Event) :
    Event.codec.Retains e fun e' => e'.producer = e.producer := by
  apply Retains.map (P := fun r => r.2.2.1.producer = e.producer ∧ True) _ fun r kept => kept.1
  exact retains_record (by decide) ((((Fields.retains_none.beside e.timestamp.retains).required
    e.context.retains_producer rfl).beside e.message.retains).beside e.id.retains)

/-- What an event may have become when it has been stored and loaded any number of times. -/
inductive Event.Reloaded (e : Event) : Event → Prop
  | same : Reloaded e e
  | text {before after : Event} (earlier : Reloaded e before)
    (loaded : Event.codec.fromText (Event.codec.toText before) = .ok after) : Reloaded e after
  | value {before after : Event} (earlier : Reloaded e before)
    (loaded : Event.codec.fromValue (Event.codec.toValue before) = .ok after) : Reloaded e after

theorem Event.Reloaded.producer_eq {e after : Event} (h : e.Reloaded after) :
    after.producer = e.producer := by
  induction h with
  | same => rfl
  | text earlier loaded ih => rw [(Event.retains_producer _).of_fromText loaded, ih]
  | value earlier loaded ih => rw [(Event.retains_producer _).of_fromValue loaded, ih]

/-! ## Names of entities -/

/-- The producer names what has the identifier: the identifier is read back from its name, and the
name can be given and does not stand for an unknown producer. -/
structure Producer.Names {kind : IdKind} (p : Producer) (i : Identifier kind) : Prop where
  notBlank : Text.isBlankText p.name = false
  accepted : ofName p.name = .ok p
  known : p.isUnknown = false
  parsed : Identifier.parse kind p.name = .ok i
  fromText : Identifier.codec.fromText (codec.toText p) = .ok i
  fromValue : Identifier.codec.fromValue (codec.toValue p) = .ok i

namespace Identifier

variable {kind : IdKind}

theorem text_inj {i j : Identifier kind} : i.text = j.text ↔ i = j := by
  obtain ⟨u⟩ := i
  obtain ⟨v⟩ := j
  rw [Identifier.mk.injEq]
  exact Uuid.text_inj

theorem isUnknown_text (i : Identifier kind) : (Producer.mk i.text).isUnknown = false := by
  apply beq_eq_false_iff_ne.2
  intro same
  have hyphen : '-' ∈ i.text.toList := i.uuid.hyphen_mem_text
  rw [show i.text = "Unknown" from congrArg Producer.name same] at hyphen
  exact absurd hyphen (by decide)

theorem names (i : Identifier kind) : Producer.Names ⟨i.text⟩ i where
  notBlank := i.uuid.isBlankText_text
  accepted := Producer.ofName_eq_ok_iff.2 ⟨i.uuid.isBlankText_text, rfl⟩
  known := i.isUnknown_text
  parsed := by
    simp only [parse, text, Uuid.parse_text]
  fromText := ReadsBack.fromText_toText ⟨i.keeps, trivial⟩ (Nat.zero_le _)
  fromValue := i.keeps.fromValue_toValue

end Identifier

theorem Producer.ofAggregate_inj {a b : AggregateId} :
    Producer.ofAggregate a = .ofAggregate b ↔ a = b := by
  rw [ofAggregate, ofAggregate, Producer.mk.injEq]
  exact Identifier.text_inj

theorem Producer.ofUser_inj {u v : UserId} : Producer.ofUser u = .ofUser v ↔ u = v := by
  rw [ofUser, ofUser, Producer.mk.injEq]
  exact Identifier.text_inj

/-! ## Events of refusals that name an entity -/

/-- The event tells of a refusal, and the rejection names this producer. -/
inductive Event.RefusedBy (p : Producer) : Event → Prop
  | refused {σ ν : Type} [DecidableEq ν] (f : Refuser σ ν) (g : CauseGraph ν) {command : Command}
    {entry : Entry} {failure : ν} {s : σ} {r : Rejection} {event : Event}
    (carries : g.Carries failure f.settings.maxCauseDepth.toNat r) (named : r.producer = some p)
    (h : (f.refuse g command entry failure s).result = .ok event) : RefusedBy p event

theorem Event.RefusedBy.producer_eq {p : Producer} {e : Event}
    (h : e.RefusedBy p) : e.producer = p := by
  cases h with
  | refused f g carries named h =>
    obtain ⟨_, _, id, _, time, _, found, -, -, rfl⟩ := Refuser.exists_of_refuse_eq_ok h
    obtain ⟨_, first⟩ := (g.exists_unwrap_eq_ok_iff _ _ _ _).2 carries
    rw [found] at first
    cases first
    show f.settings.producerOf _ = p
    rw [Settings.producerOf, named, Option.getD_some]

/-- The producer made of an aggregate or of a user names it and no other. If a rejection names an
aggregate then the producer of the event that tells of it names that aggregate, and does so however
often the event has been stored and loaded. That the event is loaded does not depend on its
producer. -/
theorem Producer.names_entity :
    (∀ a : AggregateId, (ofAggregate a).Names a ∧ ∀ b, ofAggregate a = ofAggregate b ↔ a = b) ∧
    (∀ u : UserId, (ofUser u).Names u ∧ ∀ v, ofUser u = ofUser v ↔ u = v) ∧
    ∀ (a : AggregateId) (e : Event), e.RefusedBy (ofAggregate a) →
      (∀ after, e.Reloaded after →
        after.producer.Names a ∧ ∀ b, after.producer = ofAggregate b ↔ a = b) ∧
      (e.Built → e.Storable →
        Event.codec.fromValue (Event.codec.toValue e) = .ok e ∧
        (textNesting (Event.codec.toText e) < 128 →
          Event.codec.fromText (Event.codec.toText e) = .ok e)) := by
  refine ⟨fun a => ⟨a.names, fun b => ofAggregate_inj⟩, fun u => ⟨u.names, fun v => ofUser_inj⟩,
    fun a e refused => ⟨fun after reloaded => ?_, fun built storable => ?_⟩⟩
  · have kept : after.producer = ofAggregate a := reloaded.producer_eq.trans refused.producer_eq
    rw [kept]
    exact ⟨a.names, fun b => ofAggregate_inj⟩
  · exact storable.load_withProducer built.traced e.producer

/-! The refused withdrawal once more, with a rejection that names the account. -/

namespace Withdrawal

def account : AggregateId := .ofNat 9

def accountRefusal : DomainRejection Unit :=
  { refusal with producer := some (.ofAggregate account) }

def accountRefusing : CauseGraph Unit :=
  { errors with rejection := fun _ => some (.ofDomain errors accountRefusal) }

def accountEvent : Event := event.withProducer (.ofAggregate account)

theorem made_accountRefusing (e : Unit) (r : Rejection)
    (found : accountRefusing.rejection e = some r) :
    r.Made := by
  cases found
  exact ⟨Unit, errors, accountRefusal, Trace.unrecorded, rfl⟩

theorem refuse_accountRefusing :
    (refuser.refuse accountRefusing command .erased () ()).result = .ok accountEvent := rfl

theorem carries_accountRefusal (links : Nat) :
    accountRefusing.Carries () links (.ofDomain errors accountRefusal) :=
  ⟨0, Nat.zero_le _, (), rfl, rfl, fun i hi => absurd hi (Nat.not_lt_zero i)⟩

end Withdrawal

open Withdrawal in
theorem Producer.names_entity_withdrawal :
    accountEvent.RefusedBy (.ofAggregate account) ∧ accountEvent.Reloaded accountEvent ∧
      Event.codec.fromText (Event.codec.toText accountEvent) = .ok accountEvent ∧
      accountEvent.producer.Names account := by
  have refused : accountEvent.RefusedBy (.ofAggregate account) :=
    .refused refuser accountRefusing (carries_accountRefusal _) rfl refuse_accountRefusing
  have built : accountEvent.Built :=
    .refused refuser accountRefusing made_accountRefusing refuse_accountRefusing
  have storable : accountEvent.Storable := storable_event.withProducer _
  obtain ⟨-, -, events⟩ := Producer.names_entity
  obtain ⟨named, loads⟩ := events account accountEvent refused
  have shallow : textNesting (Event.codec.toText accountEvent) < 128 := by
    rw [ReadsBack.textNesting_toText (storable.readsBack built.traced), Event.nesting_write]
    decide
  have loaded := (loads built storable).2 shallow
  have reloaded : accountEvent.Reloaded accountEvent := .text .same loaded
  exact ⟨refused, reloaded, loaded, (named accountEvent reloaded).1⟩

end EventLineage
