import EventLineage.Supply
import EventLineage.Proofs.Storage.Events

/-! # Causes come before their effects

Any number of factories, each with settings and a clock of its own, take their identifiers from one
counter. Each call is made for a command or for an event that an earlier call has returned, and may
fail before an identifier is drawn or after that. However the calls follow each other, the
identifier of an event is greater than those of all events that led to it; so nothing is its own
cause, and later events have greater identifiers. -/
namespace EventLineage

/-- The number that the bits of an identifier spell. -/
def Identifier.number {kind : IdKind} (i : Identifier kind) : Nat := i.uuid.bits.toNat

def MessageId.event? : MessageId → Option EventId
  | .command _ => none
  | .event id => some id

/-- The identifiers of the events in a chain, the nearest first. -/
def Origin.eventIds (o : Origin) : List EventId := o.links.filterMap fun l => l.message.id.event?

@[simp] theorem Command.eventIds_asOrigin (c : Command) : c.asOrigin.eventIds = [] := rfl

@[simp] theorem Event.eventIds_asOrigin (e : Event) :
    e.asOrigin.eventIds = e.id :: e.origin.eventIds := rfl

namespace Counted

/-- What led to a call. -/
inductive Cause where
  | command (c : Command)
  | event (e : Event)

def Cause.origin : Cause → Origin
  | .command c => c.asOrigin
  | .event e => e.asOrigin

/-- A call of a factory: the refusal of a command, or an event of one kind or the other made for a
cause. -/
inductive Call (ν : Type) where
  | refuse (settings : Settings) (g : CauseGraph ν) (command : Command) (entry : Entry)
      (failure : ν)
  | event (cause : Cause) (producer : Producer) (message : Message) (version : Option Version)
  | rejection (cause : Cause) (producer : Producer) (message : Message) (context : RejectionContext)

def Call.cause {ν : Type} : Call ν → Cause
  | .refuse _ _ command _ _ => .command command
  | .event cause _ _ _ => cause
  | .rejection cause _ _ _ => cause

variable {σ τ ν : Type}

/-- The event with which a call is answered, if there is one, and the state of the collaborators
then. -/
def Call.answer [DecidableEq ν] (a : Assembler σ ν) (s : σ) : Call ν → Option Event × σ
  | .refuse settings g command entry failure =>
    let refused := (Refuser.mk a settings).refuse g command entry failure s
    (refused.result.toOption, refused.state)
  | .event cause producer message version =>
    let (made, s) := (EventMaker.mk a cause.origin producer).event message version s
    (made.toOption, s)
  | .rejection cause producer message context =>
    let (made, s) := (EventMaker.mk a cause.origin producer).rejection message context s
    (made.toOption, s)

/-- The identifier drawn last, the state of the clocks, and what the collaborators were asked
for. -/
abbrev State (τ : Type) := (UInt64 × τ) × List Request

/-- How many identifiers have been drawn. -/
def State.drawn (s : State τ) : Nat := s.2.count .identifier

/-- Identifiers come from the shared counter, times from a clock; it is recorded what was asked
for. -/
def assembler (clock : Supply τ ν Instant) : Assembler (State τ) ν :=
  Assembler.recorded
    { nextId := Supply.within Prod.fst (fun last s => (last, s.2)) Supply.counted
      now := Supply.within Prod.snd (fun t s => (s.1, t)) clock }

variable (ν) in
/-- The calls made so far have returned these events, in order, and led to a state. -/
inductive Run [DecidableEq ν] : List Event → State τ → Prop
  | start (t : τ) : Run [] ((0, t), [])
  | call {events : List Event} {s s' : State τ} {answer : Option Event} (earlier : Run events s)
    (clock : Supply τ ν Instant) (call : Call ν) (known : ∀ e, call.cause = .event e → e ∈ events)
    (h : call.answer (assembler clock) s = (answer, s')) : Run (events ++ answer.toList) s'

/-! ## One call -/

/-- What a call may come to: it draws no identifier, it draws one that is lost, or it returns an
event that has the one drawn and the origin of the cause. -/
inductive Answered (cause : Cause) (last : UInt64) (drawn : Nat) :
    Option Event → UInt64 → Nat → Prop
  | nothing : Answered cause last drawn none last drawn
  | lost : Answered cause last drawn none (last + 1) (drawn + 1)
  | returned {e : Event} (id : e.id = Supply.numbered (last + 1))
      (origin : e.origin = cause.origin) :
    Answered cause last drawn (some e) (last + 1) (drawn + 1)

private theorem Answered.drawn_le {cause : Cause} {last last' : UInt64} {drawn drawn' : Nat}
    {answer : Option Event} (h : Answered cause last drawn answer last' drawn') :
    drawn ≤ drawn' := by
  cases h with
  | nothing => exact Nat.le_refl drawn
  | lost => exact Nat.le_succ drawn
  | returned => exact Nat.le_succ drawn

section Assembly

variable (clock : Supply τ ν Instant) (last : UInt64) (t : τ) (past : List Request)

private theorem nextId_assembler : (assembler clock).nextId ((last, t), past) =
    (.ok (Supply.numbered (last + 1)), ((last + 1, t), past ++ [.identifier])) := rfl

private theorem now_assembler : (assembler clock).now ((last, t), past) =
    ((clock t).1, ((last, (clock t).2), past ++ [.time])) := rfl

private theorem drawn_identifier_time (t' : τ) :
    State.drawn ((last, t'), past ++ [.identifier] ++ [.time]) =
      State.drawn ((last, t), past) + 1 := by
  simp [State.drawn]

theorem answered_of_assemble (cause : Cause) (producer : Producer) (message : Message)
    (detail : ContextDetail) {made : Except (AssemblyError ν) Event} {s' : State τ}
    (h : (assembler clock).assemble cause.origin producer message detail
      ((last, t), past) = (made, s')) :
    Answered cause last (State.drawn ((last, t), past)) made.toOption s'.1.1 s'.drawn := by
  simp only [Assembler.assemble, nextId_assembler, now_assembler] at h
  cases hc : (clock t).1 with
  | error fault =>
    rw [hc] at h
    cases h
    rw [drawn_identifier_time _ t]
    exact .lost
  | ok time =>
    rw [hc] at h
    cases h
    rw [drawn_identifier_time _ t]
    exact .returned rfl rfl

theorem answered_of_refuse [DecidableEq ν] (settings : Settings) (g : CauseGraph ν)
    (command : Command) (entry : Entry) (failure : ν) {refused : Refused (State τ) ν}
    (h : (Refuser.mk (assembler clock) settings).refuse g command entry failure
      ((last, t), past) = refused) :
    Answered (.command command) last (State.drawn ((last, t), past)) refused.result.toOption
      refused.state.1.1 refused.state.drawn := by
  cases hu : g.unwrap entry settings.maxCauseDepth.toNat failure with
  | error d =>
    rw [Refuser.refuse_of_defect hu] at h
    rw [← h]
    exact .nothing
  | ok found =>
    obtain ⟨e, r⟩ := found
    have hid := nextId_assembler clock last t past
    have htime := now_assembler clock (last + 1) t (past ++ [.identifier])
    cases hc : (clock t).1 with
    | error fault =>
      rw [hc] at htime
      rw [Refuser.refuse_of_noTime hu hid htime] at h
      rw [← h, drawn_identifier_time _ t]
      exact .lost
    | ok time =>
      rw [hc] at htime
      rw [Refuser.refuse_of_event hu hid htime] at h
      rw [← h, drawn_identifier_time _ t]
      exact .returned rfl rfl

end Assembly

theorem Call.answered [DecidableEq ν] (call : Call ν) (clock : Supply τ ν Instant) {s s' : State τ}
    {answer : Option Event} (h : call.answer (assembler clock) s = (answer, s')) :
    Answered call.cause s.1.1 s.drawn answer s'.1.1 s'.drawn := by
  obtain ⟨⟨last, t⟩, past⟩ := s
  cases call with
  | refuse settings g command entry failure =>
    cases h
    exact answered_of_refuse clock last t past settings g command entry failure rfl
  | event cause producer message version =>
    cases h
    exact answered_of_assemble clock last t past cause producer message _ rfl
  | rejection cause producer message context =>
    cases h
    exact answered_of_assemble clock last t past cause producer message _ rfl

/-! ## The invariant -/

theorem number_numbered {drawn : Nat} (few : drawn + 1 < UInt64.size) :
    (Supply.numbered (UInt64.ofNat drawn + 1)).number = drawn + 1 := by
  have next : (UInt64.ofNat drawn + 1).toNat = drawn + 1 := by
    rw [← UInt64.ofNat_one, ← UInt64.ofNat_add]
    exact UInt64.toNat_ofNat_of_lt' few
  simp only [Identifier.number, Supply.numbered, Identifier.ofNat, Uuid.ofNat, next,
    BitVec.toNat_ofNat]
  exact Nat.mod_eq_of_lt (Nat.lt_trans few (by decide))

/-- The counter counts the draws, no event has an identifier that is not yet drawn, and identifiers
increase from event to event and decrease from each event along its chain. -/
structure Ordered (events : List Event) (last : UInt64) (drawn : Nat) : Prop where
  count : last = UInt64.ofNat drawn
  within : ∀ e ∈ events, e.id.number ≤ drawn
  increasing : events.Pairwise fun a b => a.id.number < b.id.number
  descending : ∀ e ∈ events, (e.id :: e.origin.eventIds).Pairwise fun a b => b.number < a.number

namespace Ordered

variable {events : List Event} {last last' : UInt64} {drawn drawn' : Nat} {cause : Cause}
  {answer : Option Event} {e : Event}

theorem start : Ordered [] 0 0 where
  count := rfl
  within _ h := by cases h
  increasing := .nil
  descending _ h := by cases h

private theorem chain_within (h : Ordered events last drawn) (he : e ∈ events) :
    ∀ id ∈ e.id :: e.origin.eventIds, id.number ≤ drawn := by
  intro id hid
  rcases List.mem_cons.1 hid with rfl | earlier
  · exact h.within e he
  · have less := (List.pairwise_cons.1 (h.descending e he)).1 id earlier
    exact Nat.le_trans (Nat.le_of_lt less) (h.within e he)

/-- The chain that a cause hands on decreases, and all of it has been drawn. -/
theorem of_cause (h : Ordered events last drawn) (known : ∀ e, cause = .event e → e ∈ events) :
    cause.origin.eventIds.Pairwise (fun a b => b.number < a.number) ∧
      ∀ id ∈ cause.origin.eventIds, id.number ≤ drawn := by
  cases cause with
  | command c =>
    rw [Cause.origin, c.eventIds_asOrigin]
    exact ⟨.nil, nofun⟩
  | event e =>
    have he := known e rfl
    rw [Cause.origin, e.eventIds_asOrigin]
    exact ⟨h.descending e he, h.chain_within he⟩

theorem skip (h : Ordered events last drawn) : Ordered events (last + 1) (drawn + 1) where
  count := by rw [h.count, UInt64.ofNat_add, UInt64.ofNat_one]
  within e he := Nat.le_succ_of_le (h.within e he)
  increasing := h.increasing
  descending := h.descending

theorem returned (h : Ordered events last drawn) (few : drawn + 1 < UInt64.size)
    (known : ∀ a, cause = .event a → a ∈ events) (id : e.id = Supply.numbered (last + 1))
    (origin : e.origin = cause.origin) : Ordered (events ++ [e]) (last + 1) (drawn + 1) := by
  obtain ⟨descends, old⟩ := h.of_cause known
  have number : e.id.number = drawn + 1 := by rw [id, h.count, number_numbered few]
  refine ⟨h.skip.count, fun a ha => ?_, ?_, fun a ha => ?_⟩
  · rcases List.mem_append.1 ha with earlier | new
    · exact h.skip.within a earlier
    · rw [List.mem_singleton.1 new]
      exact Nat.le_of_eq number
  · apply List.pairwise_append.2
    refine ⟨h.increasing, List.pairwise_singleton _ _, fun a ha b hb => ?_⟩
    rw [List.mem_singleton.1 hb, number]
    exact Nat.lt_succ_of_le (h.within a ha)
  · rcases List.mem_append.1 ha with earlier | new
    · exact h.descending a earlier
    · rw [List.mem_singleton.1 new, origin]
      apply List.pairwise_cons.2
      refine ⟨fun b hb => ?_, descends⟩
      rw [number]
      exact Nat.lt_succ_of_le (old b hb)

/-- Each call keeps the invariant, as long as the counter does not wrap around. -/
theorem step (h : Ordered events last drawn) (few : drawn' < UInt64.size)
    (known : ∀ a, cause = .event a → a ∈ events)
    (answered : Answered cause last drawn answer last' drawn') :
    Ordered (events ++ answer.toList) last' drawn' := by
  cases answered with
  | nothing => rwa [Option.toList_none, List.append_nil]
  | lost =>
    rw [Option.toList_none, List.append_nil]
    exact h.skip
  | returned id origin => exact h.returned few known id origin

end Ordered

/-! ## Runs -/

section Runs

variable [DecidableEq ν]

theorem Run.ordered {events : List Event} {s : State τ} (run : Run ν events s)
    (few : s.drawn < UInt64.size) : Ordered events s.1.1 s.drawn := by
  induction run with
  | start t => exact .start
  | call earlier clock call known h ih =>
    have answered := call.answered clock h
    have before := ih (Nat.lt_of_le_of_lt answered.drawn_le few)
    exact before.step few known answered

/-- As long as fewer than 2⁶⁴ identifiers have been drawn, every event that a run returns has a
greater identifier than each event on its chain of causes, and these decrease along the chain. So no
event stands on its own chain and none stands on a chain twice, causes are well-founded, and
identifiers increase from one event returned to the next, whatever calls have failed in between. -/
theorem Run.causes_precede {events : List Event} {s : State τ} (run : Run ν events s)
    (few : s.drawn < UInt64.size) :
    (∀ e ∈ events, (∀ id ∈ e.origin.eventIds, id.number < e.id.number) ∧
      e.origin.eventIds.Pairwise (fun a b => b.number < a.number) ∧
      e.id ∉ e.origin.eventIds ∧ e.origin.eventIds.Nodup) ∧
    events.Pairwise (fun a b => a.id.number < b.id.number) ∧
    WellFounded fun a b : {e // e ∈ events} => a.1.id ∈ b.1.origin.eventIds := by
  have ordered := run.ordered few
  have before : ∀ e ∈ events, ∀ id ∈ e.origin.eventIds, id.number < e.id.number := by
    intro e he
    exact (List.pairwise_cons.1 (ordered.descending e he)).1
  refine ⟨fun e he => ?_, ordered.increasing, ?_⟩
  · have descends := (List.pairwise_cons.1 (ordered.descending e he)).2
    refine ⟨before e he, descends, fun own => ?_, descends.imp fun less same => ?_⟩
    · exact Nat.lt_irrefl _ (before e he e.id own)
    · exact Nat.ne_of_lt less (congrArg _ same.symm)
  · have byNumber := (measure fun a : {e // e ∈ events} => a.1.id.number).wf
    refine Subrelation.wf ?_ byNumber
    intro a b led
    exact before b.1 b.2 a.1.id led

end Runs
end Counted

/-! The refused withdrawal once more: the clock fails once after the refusal, and a notice is made
in reaction to the event. -/

namespace Withdrawal
open Counted

def refusingCall : Counted.Call Unit := .refuse .standard refusing command .erased ()

/-- Makes a notice in reaction to the refusal. -/
def noticingCall : Counted.Call Unit :=
  .event (.event event) .unknown ⟨"bank.Notified", .ofJson .null⟩ none

def noticed : Event :=
  ⟨.ofNat 3, ⟨"bank.Notified", .ofJson .null⟩, ⟨event.asOrigin, .unknown, .plain⟩, noon⟩

def requests : List Request := [.identifier, .time, .identifier, .time, .identifier, .time]

theorem known_noticingCall {e : Event} (h : noticingCall.cause = .event e) : e ∈ [event] := by
  cases h
  exact List.mem_singleton.2 rfl

theorem run_noticed : Run Unit [event, noticed] ((3, ()), requests) := by
  have refused : Run Unit [event] ((1, ()), requests.take 2) := by
    refine .call (.start ()) (.constant noon) refusingCall (fun e h => ?_) rfl
    cases h
  have lost : Run Unit [event] ((2, ()), requests.take 4) :=
    .call refused (.failing ()) noticingCall (fun _ => known_noticingCall) rfl
  exact .call lost (.constant noon) noticingCall (fun _ => known_noticingCall) rfl

end Withdrawal

open Withdrawal Counted in
theorem Counted.Run.causes_precede_withdrawal :
    State.drawn ((3, ()), requests) < UInt64.size ∧ noticed.origin.eventIds = [event.id] ∧
      event.id.number < noticed.id.number ∧ noticed.id ∉ noticed.origin.eventIds := by
  have few : State.drawn ((3, ()), requests) < UInt64.size := by
    have three : State.drawn ((3, ()), requests) = 3 := rfl
    rw [three]
    decide
  obtain ⟨chains, -, -⟩ := run_noticed.causes_precede few
  obtain ⟨before, -, own, -⟩ := chains noticed (List.mem_cons_of_mem _ List.mem_cons_self)
  exact ⟨few, rfl, before event.id List.mem_cons_self, own⟩

end EventLineage
