import EventLineage.Proofs.Refusal
import Mathlib.Data.List.Forall2

/-! # What the log shows of a run

A refuser is called any number of times, with failures of every kind, and its collaborators may fail
too. The log shows each event that is returned and each defect that is reported by one record, in
the order of the calls, and it shows nothing else. One call adds to the log what it returns, if
anything; the rest follows by induction on the calls. -/
namespace EventLineage

/-- A command that failed, the errors that there are, and how the failure comes to the refuser. -/
structure Failed (ν : Type) where
  command : Command
  graph : CauseGraph ν
  entry : Entry
  failure : ν

/-! ## Records -/

namespace Failed

variable {ν : Type} (call : Failed ν)

/-- A record shows the command, the event, its producer, and the type of the rejection that the
failure carries. -/
structure EventShown (links : Nat) (event : Event) (record : Log.Record) : Prop where
  level : record.level = .debug
  fields : ∃ r, call.graph.Carries call.failure links r ∧ record.fields =
    [("command_id", .text call.command.id.text), ("event_id", .text event.id.text),
      ("producer", .text event.producer.name), ("rejection_type", .text r.typeName)]

/-- A record shows the command and everything about the defect. -/
structure DefectShown (d : Defect) (record : Log.Record) : Prop where
  level : record.level = .warn
  fields : record.fields =
    [("command_id", .text call.command.id.text), ("failure", .text d.failure),
      ("actual_type", .text d.actualType), ("end", .text d.ending.name)]

end Failed

variable {ν : Type}

/-- A call together with what it returned. -/
abbrev Answer (ν : Type) := Failed ν × Except (RefusalError ν) Event

/-- The records show the answers: one for each event and for each defect, none for a failure of a
collaborator. -/
inductive Shown [DecidableEq ν] (links : Nat) : List (Answer ν) → List Log.Record → Prop
  | nothing : Shown links [] []
  | event {call : Failed ν} {event : Event} {record : Log.Record} {answers : List (Answer ν)}
    {log : List Log.Record} (shown : call.EventShown links event record)
    (rest : Shown links answers log) :
    Shown links ((call, .ok event) :: answers) (record :: log)
  | defect {call : Failed ν} {d : Defect} {record : Log.Record} {answers : List (Answer ν)}
    {log : List Log.Record} (stopped : call.graph.unwrap call.entry links call.failure = .error d)
    (shown : call.DefectShown d record) (rest : Shown links answers log) :
    Shown links ((call, .error (.defect d)) :: answers) (record :: log)
  | assembly {call : Failed ν} {fault : AssemblyError ν} {answers : List (Answer ν)}
    {log : List Log.Record}
    (carries : ∃ r, call.graph.Carries call.failure links r) (rest : Shown links answers log) :
    Shown links ((call, .error (.assembly fault)) :: answers) log

/-! ## Runs -/

namespace Refuser

variable {σ : Type}

/-- What has come of calls: the answers, the state of the collaborators, and the log. -/
structure Course (σ ν : Type) where
  answers : List (Answer ν)
  state : σ
  log : List Log.Record

variable [DecidableEq ν]

def answer (f : Refuser σ ν) (call : Failed ν) (s : σ) : Refused σ ν :=
  f.refuse call.graph call.command call.entry call.failure s

def run (f : Refuser σ ν) : List (Failed ν) → σ → Course σ ν
  | [], s => ⟨[], s, []⟩
  | call :: calls, s =>
    let refused := f.answer call s
    let rest := run f calls refused.state
    ⟨(call, refused.result) :: rest.answers, rest.state, refused.log ++ rest.log⟩

theorem calls_run (f : Refuser σ ν) (calls : List (Failed ν)) (s : σ) :
    (f.run calls s).answers.map Prod.fst = calls := by
  induction calls generalizing s with
  | nil => rfl
  | cons call calls ih => exact congrArg (call :: ·) (ih _)

/-- What one call adds to the log shows what it returned. -/
theorem shown_answer (f : Refuser σ ν) (call : Failed ν) (s : σ) {answers : List (Answer ν)}
    {log : List Log.Record} (rest : Shown f.settings.maxCauseDepth.toNat answers log) :
    Shown f.settings.maxCauseDepth.toNat ((call, (f.answer call s).result) :: answers)
      ((f.answer call s).log ++ log) := by
  rw [answer]
  cases hu : call.graph.unwrap call.entry f.settings.maxCauseDepth.toNat call.failure with
  | error d =>
    rw [refuse_of_defect hu]
    exact .defect hu ⟨rfl, rfl⟩ rest
  | ok found =>
    obtain ⟨e, r⟩ := found
    have carries := (call.graph.exists_unwrap_eq_ok_iff call.entry _ call.failure r).1 ⟨e, hu⟩
    rcases hid : f.assembler.nextId s with ⟨fault | id, s₁⟩
    · rw [refuse_of_noIdentifier hu hid]
      exact .assembly ⟨r, carries⟩ rest
    · rcases htime : f.assembler.now s₁ with ⟨fault | time, s₂⟩
      · rw [refuse_of_noTime hu hid htime]
        exact .assembly ⟨r, carries⟩ rest
      · rw [refuse_of_event hu hid htime]
        exact .event ⟨rfl, r, carries, rfl⟩ rest

theorem shown_run (f : Refuser σ ν) (calls : List (Failed ν)) (s : σ) :
    Shown f.settings.maxCauseDepth.toNat (f.run calls s).answers (f.run calls s).log := by
  induction calls generalizing s with
  | nil => exact .nothing
  | cons call calls ih => exact f.shown_answer call s (ih _)

end Refuser

/-! ## Records and answers, one to one -/

namespace Answer

def event? : Answer ν → Option (Failed ν × Event)
  | (call, .ok event) => some (call, event)
  | _ => none

def defect? : Answer ν → Option (Failed ν × Defect)
  | (call, .error (.defect d)) => some (call, d)
  | _ => none

end Answer

/-- The records of a level, in order. -/
def Log.ofLevel (level : Log.Level) (log : List Log.Record) : List Log.Record :=
  log.filter fun record => record.level = level

theorem Log.ofLevel_cons_self {record : Log.Record} {level : Log.Level} (h : record.level = level)
    (log : List Log.Record) : ofLevel level (record :: log) = record :: ofLevel level log :=
  List.filter_cons_of_pos (decide_eq_true h)

theorem Log.ofLevel_cons_of_ne {record : Log.Record} {level : Log.Level} (h : record.level ≠ level)
    (log : List Log.Record) : ofLevel level (record :: log) = ofLevel level log :=
  List.filter_cons_of_neg (by simpa using h)

namespace Shown

variable [DecidableEq ν] {links : Nat} {answers : List (Answer ν)} {log : List Log.Record}

theorem level (h : Shown links answers log) :
    ∀ record ∈ log, record.level = .debug ∨ record.level = .warn := by
  induction h with
  | nothing => exact List.forall_mem_nil _
  | event shown rest ih => exact List.forall_mem_cons.2 ⟨.inl shown.level, ih⟩
  | defect stopped shown rest ih => exact List.forall_mem_cons.2 ⟨.inr shown.level, ih⟩
  | assembly carries rest ih => exact ih

/-- The records of events are in the order of the events. -/
theorem events (h : Shown links answers log) :
    List.Forall₂ (fun returned record => returned.1.EventShown links returned.2 record)
      (answers.filterMap Answer.event?) (Log.ofLevel .debug log) := by
  induction h with
  | nothing => exact .nil
  | event shown rest ih =>
    rw [Log.ofLevel_cons_self shown.level]
    exact .cons shown ih
  | defect stopped shown rest ih =>
    rw [Log.ofLevel_cons_of_ne (by rw [shown.level]; decide)]
    exact ih
  | assembly carries rest ih => exact ih

/-- The records of defects are in the order of the defects. -/
theorem defects (h : Shown links answers log) :
    List.Forall₂ (fun reported record => reported.1.DefectShown reported.2 record)
      (answers.filterMap Answer.defect?) (Log.ofLevel .warn log) := by
  induction h with
  | nothing => exact .nil
  | event shown rest ih =>
    rw [Log.ofLevel_cons_of_ne (by rw [shown.level]; decide)]
    exact ih
  | defect stopped shown rest ih =>
    rw [Log.ofLevel_cons_self shown.level]
    exact .cons shown ih
  | assembly carries rest ih => exact ih

end Shown

/-- A run answers its calls in order, and its log shows the answers: by one record, in the same
order, each event that was returned, with the type of the rejection that the failure carries, and
each defect, with what was returned about it; a call for which a collaborator failed is not shown.
So the records of events are one to one with the events returned, those of defects with the defects
reported, and there are no others. -/
theorem Refuser.run_shown {σ : Type} [DecidableEq ν] (f : Refuser σ ν)
    (calls : List (Failed ν)) (s : σ) :
    (f.run calls s).answers.map Prod.fst = calls ∧
    Shown f.settings.maxCauseDepth.toNat (f.run calls s).answers (f.run calls s).log ∧
    List.Forall₂ (fun returned record =>
        returned.1.EventShown f.settings.maxCauseDepth.toNat returned.2 record)
      ((f.run calls s).answers.filterMap Answer.event?) (Log.ofLevel .debug (f.run calls s).log) ∧
    List.Forall₂ (fun reported record => reported.1.DefectShown reported.2 record)
      ((f.run calls s).answers.filterMap Answer.defect?) (Log.ofLevel .warn (f.run calls s).log) ∧
    ∀ record ∈ (f.run calls s).log, record.level = .debug ∨ record.level = .warn := by
  have shown := f.shown_run calls s
  exact ⟨f.calls_run calls s, shown, shown.events, shown.defects, shown.level⟩

end EventLineage
