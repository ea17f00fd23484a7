import EventLineage.Proofs.Failure.Walk
import EventLineage.Refusal

/-! # What a refused command leads to

A refusal has four outcomes: the failure is a defect, no identifier can be had, no time can be had,
or there is an event. For each of them it is told what is returned, what the collaborators were
asked for, and in which state they are left. -/
namespace EventLineage

/-- What an assembler may ask its collaborators for. -/
inductive Request where
  | identifier
  | time
  deriving Repr, DecidableEq

variable {σ ν : Type}

/-- The same assembler with a record of what it has asked for so far. -/
def Assembler.recorded (a : Assembler σ ν) : Assembler (σ × List Request) ν where
  nextId s :=
    let (answer, t) := a.nextId s.1
    (answer, t, s.2 ++ [.identifier])
  now s :=
    let (answer, t) := a.now s.1
    (answer, t, s.2 ++ [.time])

namespace Refuser

/-- The same refuser with a record of what it has asked its collaborators for. -/
def recorded (f : Refuser σ ν) : Refuser (σ × List Request) ν := ⟨f.assembler.recorded, f.settings⟩

section Outcomes

variable [DecidableEq ν] {f : Refuser σ ν} {g : CauseGraph ν} {command : Command} {entry : Entry}
  {failure e : ν} {r : Rejection} {s s₁ s₂ : σ} {id : EventId} {time : Instant} {fault : ν}

/-! One equation for each outcome. -/

theorem refuse_of_defect {d : Defect}
    (h : g.unwrap entry f.settings.maxCauseDepth.toNat failure = .error d) :
    f.refuse g command entry failure s = ⟨.error (.defect d), s, [defectLogged command d]⟩ := by
  simp only [refuse, h]

theorem refuse_of_noIdentifier
    (h : g.unwrap entry f.settings.maxCauseDepth.toNat failure = .ok (e, r))
    (hid : f.assembler.nextId s = (.error fault, s₁)) :
    f.refuse g command entry failure s = ⟨.error (.assembly (.idGeneration fault)), s₁, []⟩ := by
  simp only [refuse, h, eventFor_eq, hid]

theorem refuse_of_noTime
    (h : g.unwrap entry f.settings.maxCauseDepth.toNat failure = .ok (e, r))
    (hid : f.assembler.nextId s = (.ok id, s₁)) (htime : f.assembler.now s₁ = (.error fault, s₂)) :
    f.refuse g command entry failure s = ⟨.error (.assembly (.clock fault)), s₂, []⟩ := by
  simp only [refuse, h, eventFor_eq, hid, htime]

theorem refuse_of_event
    (h : g.unwrap entry f.settings.maxCauseDepth.toNat failure = .ok (e, r))
    (hid : f.assembler.nextId s = (.ok id, s₁)) (htime : f.assembler.now s₁ = (.ok time, s₂)) :
    f.refuse g command entry failure s =
      ⟨.ok (rejectionEvent f.settings command r id time), s₂,
        [eventLogged command (rejectionEvent f.settings command r id time) r]⟩ := by
  simp only [refuse, h, eventFor_eq, hid, htime]

/-- An event comes of a refusal in one way only. -/
theorem exists_of_refuse_eq_ok {event : Event}
    (h : (f.refuse g command entry failure s).result = .ok event) :
    ∃ e r id s₁ time s₂, g.unwrap entry f.settings.maxCauseDepth.toNat failure = .ok (e, r) ∧
      f.assembler.nextId s = (.ok id, s₁) ∧ f.assembler.now s₁ = (.ok time, s₂) ∧
      event = rejectionEvent f.settings command r id time := by
  cases hu : g.unwrap entry f.settings.maxCauseDepth.toNat failure with
  | error d =>
    rw [refuse_of_defect hu] at h
    cases h
  | ok found =>
    obtain ⟨e, r⟩ := found
    rcases hid : f.assembler.nextId s with ⟨fault | id, s₁⟩
    · rw [refuse_of_noIdentifier hu hid] at h
      cases h
    · rcases htime : f.assembler.now s₁ with ⟨fault | time, s₂⟩
      · rw [refuse_of_noTime hu hid htime] at h
        cases h
      · rw [refuse_of_event hu hid htime] at h
        cases h
        exact ⟨e, r, id, s₁, time, s₂, rfl, rfl, htime, rfl⟩

/-- So does a defect: it is what the walk has found. -/
theorem unwrap_of_refuse_eq_defect {d : Defect}
    (h : (f.refuse g command entry failure s).result = .error (.defect d)) :
    g.unwrap entry f.settings.maxCauseDepth.toNat failure = .error d := by
  cases hu : g.unwrap entry f.settings.maxCauseDepth.toNat failure with
  | error d' =>
    rw [refuse_of_defect hu] at h
    cases h
    rfl
  | ok found =>
    obtain ⟨e, r⟩ := found
    rcases hid : f.assembler.nextId s with ⟨fault | id, s₁⟩
    · rw [refuse_of_noIdentifier hu hid] at h
      cases h
    · rcases htime : f.assembler.now s₁ with ⟨fault | time, s₂⟩
      · rw [refuse_of_noTime hu hid htime] at h
        cases h
      · rw [refuse_of_event hu hid htime] at h
        cases h

theorem refuse_eq_defect_iff {d : Defect} :
    (f.refuse g command entry failure s).result = .error (.defect d) ↔
      g.unwrap entry f.settings.maxCauseDepth.toNat failure = .error d :=
  ⟨unwrap_of_refuse_eq_defect, fun h => by rw [refuse_of_defect h]⟩

end Outcomes

/-! ## The record -/

section Record

variable {f : Refuser σ ν} {s s₁ : σ} {past : List Request}

theorem recorded_nextId {answer : Except ν EventId} (h : f.assembler.nextId s = (answer, s₁)) :
    f.recorded.assembler.nextId (s, past) = (answer, s₁, past ++ [.identifier]) := by
  simp only [recorded, Assembler.recorded, h]

theorem recorded_now {answer : Except ν Instant} (h : f.assembler.now s = (answer, s₁)) :
    f.recorded.assembler.now (s, past) = (answer, s₁, past ++ [.time]) := by
  simp only [recorded, Assembler.recorded, h]

end Record

/-! ## Outcomes and requests -/

section Requests

variable [DecidableEq ν] (f : Refuser σ ν) (g : CauseGraph ν) (command : Command) (entry : Entry)
  (failure : ν) (s : σ)

/-- A refusal with a result leaves the collaborators in a state and has asked them for these. -/
def Asks (result : Except (RefusalError ν) Event) (left : σ) (asked : List Request) : Prop :=
  (f.refuse g command entry failure s).result = result ∧
    (f.refuse g command entry failure s).state = left ∧
    ∀ past, (f.recorded.refuse g command entry failure (s, past)).result = result ∧
      (f.recorded.refuse g command entry failure (s, past)).state = (left, past ++ asked)

variable {f g command entry failure s} {e : ν} {r : Rejection} {s₁ s₂ : σ} {id : EventId}
  {time : Instant} {fault : ν}

theorem asks_of_defect {d : Defect}
    (h : g.unwrap entry f.settings.maxCauseDepth.toNat failure = .error d) :
    f.Asks g command entry failure s (.error (.defect d)) s [] := by
  refine ⟨by rw [refuse_of_defect h], by rw [refuse_of_defect h], fun past => ?_⟩
  rw [refuse_of_defect (f := f.recorded) h]
  simp

theorem asks_of_noIdentifier
    (h : g.unwrap entry f.settings.maxCauseDepth.toNat failure = .ok (e, r))
    (hid : f.assembler.nextId s = (.error fault, s₁)) :
    f.Asks g command entry failure s (.error (.assembly (.idGeneration fault))) s₁
      [.identifier] := by
  refine ⟨by rw [refuse_of_noIdentifier h hid], by rw [refuse_of_noIdentifier h hid],
    fun past => ?_⟩
  rw [refuse_of_noIdentifier (f := f.recorded) h (recorded_nextId hid)]
  exact ⟨rfl, rfl⟩

theorem asks_of_noTime
    (h : g.unwrap entry f.settings.maxCauseDepth.toNat failure = .ok (e, r))
    (hid : f.assembler.nextId s = (.ok id, s₁)) (htime : f.assembler.now s₁ = (.error fault, s₂)) :
    f.Asks g command entry failure s (.error (.assembly (.clock fault))) s₂
      [.identifier, .time] := by
  refine ⟨by rw [refuse_of_noTime h hid htime], by rw [refuse_of_noTime h hid htime],
    fun past => ?_⟩
  rw [refuse_of_noTime (f := f.recorded) h (recorded_nextId hid) (recorded_now htime)]
  simp

theorem asks_of_event
    (h : g.unwrap entry f.settings.maxCauseDepth.toNat failure = .ok (e, r))
    (hid : f.assembler.nextId s = (.ok id, s₁)) (htime : f.assembler.now s₁ = (.ok time, s₂)) :
    f.Asks g command entry failure s (.ok (rejectionEvent f.settings command r id time)) s₂
      [.identifier, .time] := by
  refine ⟨by rw [refuse_of_event h hid htime], by rw [refuse_of_event h hid htime], fun past => ?_⟩
  rw [refuse_of_event (f := f.recorded) h (recorded_nextId hid) (recorded_now htime)]
  simp [recorded]

end Requests

/-- An event comes of a command if and only if the failure carries a rejection, then an identifier
can be had, and then a time. The event takes each of its parts from one of these, the command and
the settings. The collaborators are asked for no more than it took to find the outcome. -/
theorem refuse_outcome [DecidableEq ν] (f : Refuser σ ν) (g : CauseGraph ν) (command : Command)
    (entry : Entry) (failure : ν) (s : σ) :
    ((∃ event, (f.refuse g command entry failure s).result = .ok event) ↔
      ∃ r id s₁ time s₂, g.Carries failure f.settings.maxCauseDepth.toNat r ∧
        f.assembler.nextId s = (.ok id, s₁) ∧ f.assembler.now s₁ = (.ok time, s₂)) ∧
    (∀ r, g.Carries failure f.settings.maxCauseDepth.toNat r →
      (∀ id s₁, f.assembler.nextId s = (.ok id, s₁) →
        (∀ time s₂, f.assembler.now s₁ = (.ok time, s₂) →
          ∃ event, f.Asks g command entry failure s (.ok event) s₂ [.identifier, .time] ∧
            event.id = id ∧ event.timestamp = time ∧ event.message = r.message ∧
            (∀ p, r.producer = some p → event.producer = p) ∧
            (r.producer = none → event.producer = f.settings.unknownProducer) ∧
            event.origin = command.asOrigin ∧
            event.origin.links =
              [⟨⟨.command command.id, command.message.typeUrl⟩, command.context.actorContext⟩] ∧
            event.context.detail = .rejection ⟨command, r.trace⟩ ∧ event.version? = none) ∧
        (∀ fault s₂, f.assembler.now s₁ = (.error fault, s₂) →
          f.Asks g command entry failure s (.error (.assembly (.clock fault))) s₂
            [.identifier, .time])) ∧
      (∀ fault s₁, f.assembler.nextId s = (.error fault, s₁) →
        f.Asks g command entry failure s (.error (.assembly (.idGeneration fault))) s₁
          [.identifier])) ∧
    ((¬∃ r, g.Carries failure f.settings.maxCauseDepth.toNat r) →
      ∃ d, g.unwrap entry f.settings.maxCauseDepth.toNat failure = .error d ∧
        f.Asks g command entry failure s (.error (.defect d)) s []) := by
  refine ⟨?_, fun r carries => ?_, fun none => ?_⟩
  · constructor
    · rintro ⟨event, h⟩
      obtain ⟨e, r, id, s₁, time, s₂, hu, hid, htime, -⟩ := exists_of_refuse_eq_ok h
      have carries := (g.exists_unwrap_eq_ok_iff entry _ failure r).1 ⟨e, hu⟩
      exact ⟨r, id, s₁, time, s₂, carries, hid, htime⟩
    · rintro ⟨r, id, s₁, time, s₂, carries, hid, htime⟩
      obtain ⟨e, hu⟩ := (g.exists_unwrap_eq_ok_iff entry _ failure r).2 carries
      rw [refuse_of_event hu hid htime]
      exact ⟨_, rfl⟩
  · obtain ⟨e, hu⟩ := (g.exists_unwrap_eq_ok_iff entry _ failure r).2 carries
    refine ⟨fun id s₁ hid => ⟨fun time s₂ htime => ?_, fun fault s₂ htime => ?_⟩,
      fun fault s₁ hid => ?_⟩
    · refine ⟨_, asks_of_event hu hid htime, rfl, rfl, rfl, fun p hp => ?_, fun hp => ?_,
        rfl, rfl, rfl, rfl⟩
      · simp [rejectionEvent, Event.producer, Settings.producerOf, hp]
      · simp [rejectionEvent, Event.producer, Settings.producerOf, hp]
    · exact asks_of_noTime hu hid htime
    · exact asks_of_noIdentifier hu hid
  · obtain ⟨d, hu⟩ := (g.exists_unwrap_eq_error_iff entry _ failure).2 none
    exact ⟨d, hu, asks_of_defect hu⟩

end Refuser
end EventLineage
