import EventLineage.Proofs.Settings
import EventLineage.Proofs.Storage.Events

/-! # Where blank producers come from

No way of naming a producer gives a blank name, and every event made for such a producer has its
name. Storage alone knows no such rule: what is loaded has whatever name stands in the text, and an
event with a blank producer is loaded as it was stored. -/
namespace EventLineage
open Codec Json

/-! ## Producers that are given -/

/-- The ways in which a producer is given other than by storage. -/
inductive Producer.Given : Producer → Prop
  | unknown : Given .unknown
  | standard : Given default
  | named {name : String} {p : Producer} (h : Producer.ofName name = .ok p) : Given p
  | aggregate (i : AggregateId) : Given (.ofAggregate i)
  | user (i : UserId) : Given (.ofUser i)
  | environment (producer depth : Option String) :
    Given (Settings.ofEnvironment producer depth).1.unknownProducer

theorem Uuid.isBlankText_text (u : Uuid) : Text.isBlankText u.text = false :=
  Text.isBlankText_eq_false_iff.2 ⟨'-', u.hyphen_mem_text, by decide⟩

/-- A name from the environment is checked as any other name is; one that is refused leaves the
settings as they are. -/
theorem Settings.isBlankText_takeProducer {s : Settings}
    (h : Text.isBlankText s.unknownProducer.name = false) (value : Option String) :
    Text.isBlankText (s.takeProducer value).1.unknownProducer.name = false := by
  cases value with
  | none => exact h
  | some raw =>
    rw [name_takeProducer]
    split
    · exact h
    · rename_i full
      exact Bool.eq_false_iff.2 full

theorem Producer.Given.not_blank {p : Producer} (h : p.Given) :
    Text.isBlankText p.name = false := by
  cases h with
  | unknown => decide
  | standard => decide
  | named h =>
    obtain ⟨full, rfl⟩ := Producer.ofName_eq_ok_iff.1 h
    exact full
  | aggregate i => exact i.uuid.isBlankText_text
  | user i => exact i.uuid.isBlankText_text
  | environment producer depth =>
    have taken := Settings.isBlankText_takeProducer (s := .standard) (by decide) producer
    rw [← Settings.unknownProducer_takeDepth _ depth] at taken
    exact taken

/-! ## Events made for them -/

/-- The ways in which an event is made for a producer that is given. A rejection may name one, and
the settings do. -/
inductive Event.MadeForGiven : Event → Prop
  | refused {σ ν : Type} [DecidableEq ν] (f : Refuser σ ν) (g : CauseGraph ν)
    (fallback : f.settings.unknownProducer.Given)
    (named : ∀ e r p, g.rejection e = some r → r.producer = some p → p.Given) {command : Command}
    {entry : Entry} {failure : ν} {s : σ} {event : Event}
    (h : (f.refuse g command entry failure s).result = .ok event) : MadeForGiven event
  | event {σ ν : Type} (m : EventMaker σ ν) (producer : m.producer.Given) (message : Message)
    (version : Option Version) {s t : σ} {event : Event}
    (h : m.event message version s = (.ok event, t)) : MadeForGiven event
  | rejection {σ ν : Type} (m : EventMaker σ ν) (producer : m.producer.Given) (message : Message)
    (context : RejectionContext) {s t : σ} {event : Event}
    (h : m.rejection message context s = (.ok event, t)) : MadeForGiven event

theorem Settings.given_producerOf {settings : Settings} {r : Rejection}
    (fallback : settings.unknownProducer.Given) (named : ∀ p, r.producer = some p → p.Given) :
    (settings.producerOf r).Given := by
  rw [producerOf]
  cases h : r.producer with
  | none => exact fallback
  | some p => exact named p h

theorem Event.MadeForGiven.given {e : Event} (h : e.MadeForGiven) : e.producer.Given := by
  cases h with
  | @refused σ ν _ f g fallback named command entry failure s _ h =>
    obtain ⟨e', r, id, s₁, time, s₂, found, -, -, rfl⟩ := Refuser.exists_of_refuse_eq_ok h
    obtain ⟨k, -, d, first⟩ := (g.exists_unwrap_eq_ok_iff entry _ failure r).1 ⟨e', found⟩
    exact Settings.given_producerOf fallback fun p hp => named d r p first.isRejection hp
  | event m producer message version h =>
    rw [Event.producer, Assembler.context_of_assemble h]
    exact producer
  | rejection m producer message context h =>
    rw [Event.producer, Assembler.context_of_assemble h]
    exact producer

/-! ## Producers that are loaded -/

theorem Producer.fromText_eq_ok_iff {s : String} {p : Producer} :
    Producer.codec.fromText s = .ok p ↔ Codec.string.fromText s = .ok p.name := by
  rw [Producer.codec, fromText_map]
  cases Codec.string.fromText s with
  | error stop => simp [Except.map]
  | ok name =>
    obtain ⟨given⟩ := p
    simp [Except.map]

theorem Producer.fromValue_eq_ok_iff {v : Payload} {p : Producer} :
    Producer.codec.fromValue v = .ok p ↔ v.json = .text p.name := by
  obtain ⟨name⟩ := p
  rw [Producer.codec, fromValue_map, Codec.fromValue, string]
  cases v.json with
  | text | null | bool | number | list | object =>
    simp [Wording.codec, TextForm.ofJson, Wording.string, Except.map]

/-- The same event with another producer. -/
def Event.withProducer (e : Event) (p : Producer) : Event :=
  { e with context := { e.context with producer := p } }

theorem Event.Storable.withProducer {e : Event} (h : e.Storable) (p : Producer) :
    (e.withProducer p).Storable :=
  ⟨h.payload, h.time, h.links, h.detail⟩

/-- The producer of an event plays no part in whether the event is loaded. -/
theorem Event.Storable.load_withProducer {e : Event} (h : e.Storable)
    (traced : e.context.detail.Traced) (p : Producer) :
    Event.codec.fromValue (Event.codec.toValue (e.withProducer p)) = .ok (e.withProducer p) ∧
      (textNesting (Event.codec.toText e) < 128 →
        Event.codec.fromText (Event.codec.toText (e.withProducer p)) = .ok (e.withProducer p)) := by
  have back := (h.withProducer p).readsBack traced
  refine ⟨back.fromValue_toValue, fun fits => back.fromText_toText ?_⟩
  rw [ReadsBack.textNesting_toText (h.readsBack traced), Event.nesting_write] at fits
  rw [Event.nesting_write]
  exact Nat.le_of_lt_succ fits

/-- A producer that is given is not blank, and so is that of every event made for it. Only storage
leads to blank producers: every text is loaded as the producer of that name, and an event is loaded
whatever producer it was stored with. -/
theorem Producer.not_blank_unless_loaded (p : Producer) (e : Event) :
    (p.Given → Text.isBlankText p.name = false) ∧
    (e.MadeForGiven → Text.isBlankText e.producer.name = false) ∧
    (∀ s, Producer.codec.fromText s = .ok p ↔ Codec.string.fromText s = .ok p.name) ∧
    (∀ v, Producer.codec.fromValue v = .ok p ↔ v.json = .text p.name) ∧
    (e.Built → e.Storable →
      Event.codec.fromValue (Event.codec.toValue (e.withProducer p)) = .ok (e.withProducer p) ∧
      (textNesting (Event.codec.toText e) < 128 →
        Event.codec.fromText (Event.codec.toText (e.withProducer p)) =
          .ok (e.withProducer p))) := by
  refine ⟨fun given => given.not_blank, fun made => made.given.not_blank, fun s => ?_, fun v => ?_,
    fun built storable => ?_⟩
  · exact Producer.fromText_eq_ok_iff
  · exact Producer.fromValue_eq_ok_iff
  · exact storable.load_withProducer built.traced p

/-- The producer of the refused withdrawal is not blank, but the event is loaded with a blank one if
it was stored with that. -/
theorem Producer.not_blank_unless_loaded_withdrawal :
    Text.isBlankText Withdrawal.event.producer.name = false ∧
    Event.codec.fromText (Event.codec.toText (Withdrawal.event.withProducer ⟨" "⟩)) =
      .ok (Withdrawal.event.withProducer ⟨" "⟩) := by
  have made : Withdrawal.event.MadeForGiven := by
    refine .refused Withdrawal.refuser Withdrawal.refusing .unknown (fun e r p found named => ?_)
      Withdrawal.refuse_refusing
    cases found
    cases named
  obtain ⟨-, notBlank, -, -, stored⟩ := Producer.not_blank_unless_loaded ⟨" "⟩ Withdrawal.event
  obtain ⟨-, fromText⟩ := stored Withdrawal.built_event Withdrawal.storable_event
  exact ⟨notBlank made, fromText Withdrawal.textNesting_event⟩

/-- A blank producer that is loaded. -/
theorem Producer.blank_loaded :
    Producer.codec.fromText "\" \"" = .ok ⟨" "⟩ ∧ Text.isBlankText " " = true := by
  constructor
  · rfl
  · decide

end EventLineage
