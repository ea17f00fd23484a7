import EventLineage.Proofs.Refusal
import EventLineage.Proofs.Storage.Events

/-! # What an event does not tell of a failure

A refusal makes use of the rejection that it finds and of nothing else in the failure. Of what a
business rule says for diagnosis, its type, its text and its causes, the event keeps the trace
alone. With them the trace holds the calls that led to the rejection, if those are recorded, so one
refusal of a business rule may leave two traces. -/
namespace EventLineage

theorem Settings.producerOf_congr {settings : Settings} {r r' : Rejection}
    (h : r.producer = r'.producer) :
    settings.producerOf r = settings.producerOf r' := by
  rw [producerOf, producerOf, h]

namespace Refuser

variable {σ ν : Type} {command : Command} {s : σ}

/-- The outcomes of refusing a command for two reasons differ in no more than the trace. -/
structure Alike (command : Command) (trace trace' : String) (a a' : Refused σ ν) : Prop where
  state : a.state = a'.state
  error : ∀ e, a.result = .error e ↔ a'.result = .error e
  event : ∀ event, a.result = .ok event → ∃ event', a'.result = .ok event' ∧
    event.id = event'.id ∧ event.message = event'.message ∧ event.origin = event'.origin ∧
    event.producer = event'.producer ∧ event.timestamp = event'.timestamp ∧
    event.rejection? = some ⟨command, trace⟩ ∧ event'.rejection? = some ⟨command, trace'⟩

theorem alike_of_error {e : RefusalError ν} {trace trace' : String} {log log' : List Log.Record} :
    Alike command trace trace' (⟨.error e, s, log⟩ : Refused σ ν) ⟨.error e, s, log'⟩ where
  state := rfl
  error _ := Iff.rfl
  event _ h := by cases h

theorem alike_of_event {r r' : Rejection} {id : EventId} {time : Instant} {settings : Settings}
    {log log' : List Log.Record} (message : r.message = r'.message)
    (producer : r.producer = r'.producer) :
    Alike command r.trace r'.trace
      (⟨.ok (rejectionEvent settings command r id time), s, log⟩ : Refused σ ν)
      ⟨.ok (rejectionEvent settings command r' id time), s, log'⟩ where
  state := rfl
  error _ := by constructor <;> nofun
  event event h := by
    cases h
    exact ⟨_, rfl, rfl, message, rfl, Settings.producerOf_congr producer, rfl, rfl, rfl⟩

variable [DecidableEq ν] {f : Refuser σ ν} {g g' : CauseGraph ν} {entry entry' : Entry}
  {failure failure' : ν}

/-- Once a rejection has been found, it does not matter how. -/
theorem refuse_eq_of_carries {r : Rejection}
    (h : g.Carries failure f.settings.maxCauseDepth.toNat r)
    (h' : g'.Carries failure' f.settings.maxCauseDepth.toNat r) :
    f.refuse g command entry failure s = f.refuse g' command entry' failure' s := by
  obtain ⟨e, found⟩ := (g.exists_unwrap_eq_ok_iff entry _ failure r).2 h
  obtain ⟨e', found'⟩ := (g'.exists_unwrap_eq_ok_iff entry' _ failure' r).2 h'
  simp only [refuse, found, found']

/-- The collaborators are asked for the same, whichever of the two rejections it is. -/
theorem refuse_alike {r r' : Rejection} (message : r.message = r'.message)
    (producer : r.producer = r'.producer) (h : g.Carries failure f.settings.maxCauseDepth.toNat r)
    (h' : g'.Carries failure' f.settings.maxCauseDepth.toNat r') :
    Alike command r.trace r'.trace (f.refuse g command entry failure s)
      (f.refuse g' command entry' failure' s) := by
  obtain ⟨e, found⟩ := (g.exists_unwrap_eq_ok_iff entry _ failure r).2 h
  obtain ⟨e', found'⟩ := (g'.exists_unwrap_eq_ok_iff entry' _ failure' r').2 h'
  rcases hid : f.assembler.nextId s with ⟨fault | id, s₁⟩
  · rw [refuse_of_noIdentifier found hid, refuse_of_noIdentifier found' hid]
    exact alike_of_error
  · rcases htime : f.assembler.now s₁ with ⟨fault | time, s₂⟩
    · rw [refuse_of_noTime found hid htime, refuse_of_noTime found' hid htime]
      exact alike_of_error
    · rw [refuse_of_event found hid htime, refuse_of_event found' hid htime]
      exact alike_of_event message producer

/-- Two failures that carry the same rejection are refused in the same way, down to the log, however
the rejection is wrapped in them and however they come. Two rejections with the same message and the
same producer lead to the same error or to two events that differ in the trace alone, and leave the
same state behind. The trace is that of the rule, with the texts of its own causes and the calls
that were recorded when it refused. -/
theorem refuse_ignores_diagnostics (f : Refuser σ ν) (command : Command) (s : σ) :
    (∀ (g g' : CauseGraph ν) (entry entry' : Entry) (failure failure' : ν) (r : Rejection),
      g.Carries failure f.settings.maxCauseDepth.toNat r →
      g'.Carries failure' f.settings.maxCauseDepth.toNat r →
      f.refuse g command entry failure s = f.refuse g' command entry' failure' s) ∧
    ∀ (κ κ' : Type) (h : CauseGraph κ) (h' : CauseGraph κ') (d : DomainRejection κ)
      (d' : DomainRejection κ') (calls calls' : String),
      d.message = d'.message → d.producer = d'.producer →
      ∀ (g g' : CauseGraph ν) (entry entry' : Entry) (failure failure' : ν),
      g.Carries failure f.settings.maxCauseDepth.toNat (.captured h d calls) →
      g'.Carries failure' f.settings.maxCauseDepth.toNat (.captured h' d' calls') →
      Alike command
        (Trace.withCalls d.typeName d.display
          ((h.upTo Trace.causeLimit d.cause).map h.display) calls)
        (Trace.withCalls d'.typeName d'.display
          ((h'.upTo Trace.causeLimit d'.cause).map h'.display) calls')
        (f.refuse g command entry failure s) (f.refuse g' command entry' failure' s) := by
  constructor
  · intro g g' entry entry' failure failure' r carries carries'
    exact refuse_eq_of_carries carries carries'
  · intro κ κ' h h' d d' calls calls' message producer g g' entry entry' failure failure' carries
      carries'
    have same :
        (Rejection.captured h d calls).message = (Rejection.captured h' d' calls').message :=
      message
    exact refuse_alike same producer carries carries'

end Refuser

/-! The withdrawal is refused by another rule that says the same to the customer, and in a failure
that wraps the rejection. -/

namespace Withdrawal

def overdrawn : Rejection := .ofDomain errors refusal

/-- The same refusal of the same rule, in a process that records calls. -/
def overdrawnWithCalls : Rejection := .captured errors refusal "   0: bank::withdraw"

def cap : DomainRejection Unit :=
  { refusal with typeName := "bank::Capped", display := "limit passed", cause := none }

def capped : Rejection := .captured errors cap "   0: bank::cap"

/-- A rejection and a failure that wraps it. -/
def wrapping (r : Rejection) : CauseGraph Bool where
  cause wrapper := if wrapper then some false else none
  display wrapper := if wrapper then "withdrawal failed" else "rejected"
  debug wrapper := if wrapper then "Failed" else "Rejected"
  familiar _ := none
  rejection wrapper := if wrapper then none else some r

def wrappingRefuser : Refuser Unit Bool := ⟨⟨.constant (.ofNat 1), .constant noon⟩, .standard⟩

theorem carries_wrapping (r : Rejection) :
    (wrapping r).Carries false wrappingRefuser.settings.maxCauseDepth.toNat r ∧
    (wrapping r).Carries true wrappingRefuser.settings.maxCauseDepth.toNat r := by
  constructor
  · exact ((wrapping r).exists_unwrap_eq_ok_iff .erased _ false r).1 ⟨false, rfl⟩
  · exact ((wrapping r).exists_unwrap_eq_ok_iff .erased _ true r).1 ⟨false, rfl⟩

theorem refuse_wrapping (r : Rejection) :
    (wrappingRefuser.refuse (wrapping r) command .erased true ()).result =
      .ok (rejectionEvent .standard command r (.ofNat 1) noon) := rfl

end Withdrawal

open Withdrawal in
/-- The bare rejection and the wrapped one are refused in the same way. The two rules lead to two
events, which are alike but for two different traces. -/
theorem Refuser.refuse_ignores_diagnostics_withdrawal :
    wrappingRefuser.refuse (wrapping overdrawn) command (.typed "bank::Overdrawn") false () =
      wrappingRefuser.refuse (wrapping overdrawn) command .erased true () ∧
    (wrappingRefuser.refuse (wrapping overdrawn) command .erased true ()).result =
      .ok (rejectionEvent .standard command overdrawn (.ofNat 1) noon) ∧
    (wrappingRefuser.refuse (wrapping capped) command .erased true ()).result =
      .ok (rejectionEvent .standard command capped (.ofNat 1) noon) ∧
    Refuser.Alike command overdrawn.trace capped.trace
      (wrappingRefuser.refuse (wrapping overdrawn) command (.typed "bank::Overdrawn") false ())
      (wrappingRefuser.refuse (wrapping capped) command .erased true ()) ∧
    overdrawn.trace ≠ capped.trace := by
  obtain ⟨bare, wrapped⟩ := carries_wrapping overdrawn
  obtain ⟨-, other⟩ := carries_wrapping capped
  obtain ⟨same, alike⟩ := refuse_ignores_diagnostics wrappingRefuser command ()
  refine ⟨same _ _ _ _ _ _ overdrawn bare wrapped, refuse_wrapping _, refuse_wrapping _, ?_,
    by decide +kernel⟩
  exact alike Unit Unit errors errors refusal cap _ _ rfl rfl _ _ _ _ _ _ bare other

open Withdrawal in
/-- One refusal of one rule, with its calls recorded and without, in the same failure: the events
have different traces, so no trace is told by the rule, its text and its causes alone. -/
theorem Refuser.trace_not_of_rule_alone :
    ∃ (event event' : Event) (trace trace' : String),
      (wrappingRefuser.refuse (wrapping overdrawn) command .erased true ()).result = .ok event ∧
      (wrappingRefuser.refuse (wrapping overdrawnWithCalls) command .erased true ()).result =
        .ok event' ∧
      event.rejection? = some ⟨command, trace⟩ ∧ event'.rejection? = some ⟨command, trace'⟩ ∧
      ¬∃ told : String → String → List String → String,
        trace = told refusal.typeName refusal.display
          ((errors.upTo Trace.causeLimit refusal.cause).map errors.display) ∧
        trace' = told refusal.typeName refusal.display
          ((errors.upTo Trace.causeLimit refusal.cause).map errors.display) := by
  refine ⟨_, _, overdrawn.trace, overdrawnWithCalls.trace, refuse_wrapping _, refuse_wrapping _,
    rfl, rfl, ?_⟩
  rintro ⟨told, without, withCalls⟩
  have differ : overdrawn.trace ≠ overdrawnWithCalls.trace := by decide +kernel
  exact differ (without.trans withCalls.symm)

end EventLineage
