import EventLineage.Interleaving
import EventLineage.Proofs.Refusal

/-! # What threads draw from their shared counter

Of a run it is kept which identifiers were drawn, in order, and by which calls. What was drawn for a
call decides how it is answered; this is the invariant of a thread, and each of its steps keeps
it. -/
namespace EventLineage.Interleaving

variable {ν : Type}

/-- The place of a call: its thread, and how many calls of that thread come before it. -/
structure Place where
  thread : Nat
  position : Nat
  deriving Repr, DecidableEq

/-- An identifier that was drawn, and the call that drew it. -/
structure Draw where
  place : Place
  id : EventId
  deriving Repr, DecidableEq

def callAt (programs : List (List (Call ν))) (p : Place) : Option (Call ν) :=
  programs[p.thread]? >>= fun program => program[p.position]?

def State.answerAt (s : State ν) (p : Place) : Option (Except (RefusalError ν) Event) :=
  s.threads[p.thread]? >>= fun t => t.answers[p.position]?

theorem State.exists_answerAt {s : State ν} {event : Event} (he : event ∈ s.events) :
    ∃ p, s.answerAt p = some (.ok event) := by
  obtain ⟨answer, ha, ok⟩ := List.mem_filterMap.1 he
  obtain ⟨t, ht, ha⟩ := List.mem_flatMap.1 ha
  obtain ⟨i, hi, ht⟩ := List.mem_iff_getElem.1 ht
  obtain ⟨n, hn, ha⟩ := List.mem_iff_getElem.1 ha
  refine ⟨⟨i, n⟩, Option.bind_eq_some_iff.2 ⟨t, List.getElem?_eq_some_iff.2 ⟨hi, ht⟩, ?_⟩⟩
  refine List.getElem?_eq_some_iff.2 ⟨hn, ha.trans ?_⟩
  cases answer with
  | error => cases ok
  | ok => exact congrArg _ (Option.some.inj ok)

/-- The identifier that a thread has drawn, as it was before and as it is after a step. -/
def Thread.drew? (before after : Thread ν) : Option EventId :=
  match before.progress, after.progress with
  | .walked _, .drawn _ id => some id
  | _, _ => none

/-- The identifiers drawn for a call. -/
def drawnFor (past : List Draw) (p : Place) : List EventId :=
  (past.filter fun d => d.place = p).map Draw.id

theorem drawnFor_append (past more : List Draw) (p : Place) :
    drawnFor (past ++ more) p = drawnFor past p ++ drawnFor more p := by
  simp [drawnFor]

theorem drawnFor_toList_map (p q : Place) (id : Option EventId) :
    drawnFor (id.map (Draw.mk q)).toList p = if q = p then id.toList else [] := by
  cases id with
  | none => simp [drawnFor]
  | some id => by_cases h : q = p <;> simp [drawnFor, h]

theorem mem_drawnFor {past : List Draw} {p : Place} {id : EventId} :
    id ∈ drawnFor past p ↔ ⟨p, id⟩ ∈ past := by
  simp only [drawnFor, List.mem_map, List.mem_filter, decide_eq_true_eq]
  constructor
  · rintro ⟨d, ⟨hd, rfl⟩, rfl⟩
    exact hd
  · intro h
    exact ⟨⟨p, id⟩, ⟨h, rfl⟩, rfl⟩

section Steps

variable [DecidableEq ν] (g : CauseGraph ν) (settings : Settings)

/-- What a call finds when it walks its failure. -/
def Call.found (call : Call ν) : Except Defect (ν × Rejection) :=
  g.unwrap call.entry settings.maxCauseDepth.toNat call.failure

/-- The draw that the step of a thread makes, read off the states before and after it. -/
def State.draw? (s : State ν) (index : Nat) : Option Draw :=
  match s.threads[index]?, (s.step g settings index).threads[index]? with
  | some t, some t' => (t.drew? t').map (Draw.mk ⟨index, t.answers.length⟩)
  | _, _ => none

/-- The draws of a run, in order. -/
def State.draws (s : State ν) : List Nat → List Draw
  | [] => []
  | index :: rest => (s.draw? g settings index).toList ++ (s.step g settings index).draws rest

/-! ## Steps of a thread -/

/-- The steps that a thread can take when `last` was drawn last, and what each of them draws. -/
inductive Thread.Steps (last : UInt64) : Thread ν → Option EventId → Thread ν → Prop
  | idle (progress answers) : Steps last ⟨[], progress, answers⟩ none ⟨[], progress, answers⟩
  | defect {call rest answers d} (h : Call.found g settings call = .error d) :
    Steps last ⟨call :: rest, .begun, answers⟩ none ⟨rest, .begun, answers ++ [.error (.defect d)]⟩
  | walk {call rest answers e r} (h : Call.found g settings call = .ok (e, r)) :
    Steps last ⟨call :: rest, .begun, answers⟩ none ⟨call :: rest, .walked r, answers⟩
  | draw {call rest answers r} :
    Steps last ⟨call :: rest, .walked r, answers⟩ (some (Supply.numbered (last + 1)))
      ⟨call :: rest, .drawn r (Supply.numbered (last + 1)), answers⟩
  | noTime {call rest answers r id fault} (h : Call.reading call = .error fault) :
    Steps last ⟨call :: rest, .drawn r id, answers⟩ none
      ⟨rest, .begun, answers ++ [.error (.assembly (.clock fault))]⟩
  | time {call rest answers r id time} (h : Call.reading call = .ok time) :
    Steps last ⟨call :: rest, .drawn r id, answers⟩ none ⟨call :: rest, .timed r id time, answers⟩
  | event {call rest answers r id time} :
    Steps last ⟨call :: rest, .timed r id time, answers⟩ none
      ⟨rest, .begun, answers ++ [.ok (rejectionEvent settings call.command r id time)]⟩

theorem Thread.steps_step (last : UInt64) (t : Thread ν) :
    Thread.Steps g settings last t (t.drew? (t.step g settings last).1) (t.step g settings last).1 ∧
      (t.step g settings last).2 =
        if (t.drew? (t.step g settings last).1).isSome then last + 1 else last := by
  obtain ⟨calls, progress, answers⟩ := t
  cases calls with
  | nil => cases progress <;> exact ⟨.idle _ _, rfl⟩
  | cons call rest =>
    cases progress with
    | begun =>
      cases h : Call.found g settings call with
      | error d =>
        have step : Thread.step g settings last ⟨call :: rest, .begun, answers⟩ =
            (⟨rest, .begun, answers ++ [.error (.defect d)]⟩, last) := by
          simp only [Call.found] at h
          simp [Thread.step, h, Thread.answer]
        rw [step]
        exact ⟨.defect h, rfl⟩
      | ok found =>
        obtain ⟨e, r⟩ := found
        have step : Thread.step g settings last ⟨call :: rest, .begun, answers⟩ =
            (⟨call :: rest, .walked r, answers⟩, last) := by
          simp only [Call.found] at h
          simp [Thread.step, h]
        rw [step]
        exact ⟨.walk h, rfl⟩
    | walked r => exact ⟨.draw, rfl⟩
    | drawn r id =>
      cases h : call.reading with
      | error fault =>
        have step : Thread.step g settings last ⟨call :: rest, .drawn r id, answers⟩ =
            (⟨rest, .begun, answers ++ [.error (.assembly (.clock fault))]⟩, last) := by
          simp [Thread.step, h, Thread.answer]
        rw [step]
        exact ⟨.noTime h, rfl⟩
      | ok time =>
        have step : Thread.step g settings last ⟨call :: rest, .drawn r id, answers⟩ =
            (⟨call :: rest, .timed r id time, answers⟩, last) := by
          simp [Thread.step, h]
        rw [step]
        exact ⟨.time h, rfl⟩
    | timed r id time => exact ⟨.event, rfl⟩

/-! ## The invariant of a thread -/

/-- How a call is answered for which these identifiers were drawn. -/
inductive Settled (call : Call ν) : List EventId → Except (RefusalError ν) Event → Prop
  | defect {d} (h : call.found g settings = .error d) : Settled call [] (.error (.defect d))
  | noTime {e r fault} (id) (h : call.found g settings = .ok (e, r))
      (hr : call.reading = .error fault) :
    Settled call [id] (.error (.assembly (.clock fault)))
  | event {e r time} (id) (h : call.found g settings = .ok (e, r)) (hr : call.reading = .ok time) :
    Settled call [id] (.ok (rejectionEvent settings call.command r id time))

/-- How far a call has come for which these identifiers were drawn. -/
inductive Underway (call : Call ν) : List EventId → Progress → Prop
  | begun : Underway call [] .begun
  | walked {e r} (h : call.found g settings = .ok (e, r)) : Underway call [] (.walked r)
  | drawn {e r} (id) (h : call.found g settings = .ok (e, r)) : Underway call [id] (.drawn r id)
  | timed {e r time} (id) (h : call.found g settings = .ok (e, r)) (hr : call.reading = .ok time) :
    Underway call [id] (.timed r id time)

namespace Underway

variable {g settings} {call : Call ν} {ids : List EventId}

theorem defect {d : Defect} (h : Underway g settings call ids .begun)
    (found : call.found g settings = .error d) :
    Settled g settings call ids (.error (.defect d)) := by
  cases h
  exact .defect found

theorem walk {e : ν} {r : Rejection} (h : Underway g settings call ids .begun)
    (found : call.found g settings = .ok (e, r)) : Underway g settings call ids (.walked r) := by
  cases h
  exact .walked found

theorem draw {r : Rejection} (h : Underway g settings call ids (.walked r)) (id : EventId) :
    Underway g settings call (ids ++ [id]) (.drawn r id) := by
  cases h with
  | walked found => exact .drawn id found

theorem noTime {r : Rejection} {id : EventId} {fault : ν}
    (h : Underway g settings call ids (.drawn r id)) (reading : call.reading = .error fault) :
    Settled g settings call ids (.error (.assembly (.clock fault))) := by
  cases h with
  | drawn id found => exact .noTime id found reading

theorem time {r : Rejection} {id : EventId} {time : Instant}
    (h : Underway g settings call ids (.drawn r id)) (reading : call.reading = .ok time) :
    Underway g settings call ids (.timed r id time) := by
  cases h with
  | drawn id found => exact .timed id found reading

theorem event {r : Rejection} {id : EventId} {time : Instant}
    (h : Underway g settings call ids (.timed r id time)) :
    Settled g settings call ids (.ok (rejectionEvent settings call.command r id time)) := by
  cases h with
  | timed id found reading => exact .event id found reading

end Underway

/-- A thread has come so far with its program; `drawn` says what was drawn for each of its calls. -/
structure Thread.Follows (program : List (Call ν)) (drawn : Nat → List EventId) (t : Thread ν) :
    Prop where
  calls : t.calls = program.drop t.answers.length
  within : t.answers.length ≤ program.length
  settled : ∀ n call answer, program[n]? = some call → t.answers[n]? = some answer →
    Settled g settings call (drawn n) answer
  underway : ∀ call, program[t.answers.length]? = some call →
    Underway g settings call (drawn t.answers.length) t.progress
  ahead : ∀ n, t.answers.length < n → drawn n = []
  noCall : drawn program.length = []

variable {g settings}

theorem Thread.follows_start (program : List (Call ν)) :
    (Thread.start program).Follows g settings program fun _ => [] where
  calls := rfl
  within := Nat.zero_le _
  settled n call answer _ h := by simp [Thread.start] at h
  underway call _ := .begun
  ahead n _ := rfl
  noCall := rfl

/-- What was drawn for the calls of a thread, after one more draw for its current call. -/
def drawnNext (drawn : Nat → List EventId) (current : Nat) (id : Option EventId) (n : Nat) :
    List EventId :=
  drawn n ++ if current = n then id.toList else []

@[simp] theorem drawnNext_none (drawn : Nat → List EventId) (current : Nat) :
    drawnNext drawn current none = drawn := by
  funext n
  simp [drawnNext]

section Current

variable {program : List (Call ν)} {drawn : Nat → List EventId} {call : Call ν}
    {rest : List (Call ν)}
  {progress : Progress} {answers : List (Except (RefusalError ν) Event)}

theorem Thread.Follows.current
    (h : Thread.Follows g settings program drawn ⟨call :: rest, progress, answers⟩) :
    program[answers.length]? = some call ∧ rest = program.drop (answers.length + 1) := by
  have calls : call :: rest = program.drop answers.length := h.calls
  constructor
  · rw [← List.head?_drop, ← calls]
    rfl
  · rw [← List.tail_drop, ← calls]
    rfl

theorem Thread.Follows.underway_current
    (h : Thread.Follows g settings program drawn ⟨call :: rest, progress, answers⟩) :
    Underway g settings call (drawn answers.length) progress := h.underway call h.current.1

/-- A thread that gives an answer goes on to its next call, for which nothing was drawn. -/
theorem Thread.Follows.answered {answer : Except (RefusalError ν) Event}
    (h : Thread.Follows g settings program drawn ⟨call :: rest, progress, answers⟩)
    (settles : Settled g settings call (drawn answers.length) answer) :
    Thread.Follows g settings program drawn ⟨rest, .begun, answers ++ [answer]⟩ := by
  obtain ⟨here, left⟩ := h.current
  have lt : answers.length < program.length := (List.getElem?_eq_some_iff.1 here).1
  refine ⟨?_, ?_, fun n c a hc ha => ?_, fun c _ => ?_, fun n hn => ?_, h.noCall⟩
  · simpa using left
  · simp only [List.length_append, List.length_singleton]
    omega
  · rcases Nat.lt_trichotomy n answers.length with less | same | more
    · rw [List.getElem?_append_left less] at ha
      exact h.settled n c a hc ha
    · subst same
      rw [List.getElem?_append_right (Nat.le_refl _)] at ha
      simp only [Nat.sub_self, List.getElem?_cons_zero, Option.some.injEq] at ha
      rw [hc] at here
      cases here
      rw [← ha]
      exact settles
    · have none : (answers ++ [answer])[n]? = none := by
        apply List.getElem?_eq_none
        simp only [List.length_append, List.length_singleton]
        omega
      rw [none] at ha
      cases ha
  · have next : drawn (answers ++ [answer]).length = [] :=
      h.ahead _ (by simp)
    rw [next]
    exact .begun
  · apply h.ahead n
    simp only [List.length_append, List.length_singleton] at hn
    show answers.length < n
    omega

/-- A thread that gives no answer goes on with its current call, for which an identifier may be
drawn. -/
theorem Thread.Follows.goesOn {progress' : Progress} {id : Option EventId}
    (h : Thread.Follows g settings program drawn ⟨call :: rest, progress, answers⟩)
    (underway : Underway g settings call (drawn answers.length ++ id.toList) progress') :
    Thread.Follows g settings program (drawnNext drawn answers.length id)
      ⟨call :: rest, progress', answers⟩ := by
  have here := h.current.1
  have lt : answers.length < program.length := (List.getElem?_eq_some_iff.1 here).1
  refine ⟨h.calls, h.within, fun n c a hc ha => ?_, fun c hc => ?_, fun n hn => ?_, ?_⟩
  · have earlier : answers.length ≠ n := by
      have := (List.getElem?_eq_some_iff.1 ha).1
      exact Nat.ne_of_gt this
    simpa [drawnNext, earlier] using h.settled n c a hc ha
  · have same : c = call := Option.some.inj (hc.symm.trans here)
    simpa [drawnNext, same] using underway
  · have later : answers.length ≠ n := Nat.ne_of_lt hn
    simpa [drawnNext, later] using h.ahead n hn
  · simpa [drawnNext, Nat.ne_of_lt lt] using h.noCall

end Current

/-- Each step of a thread keeps the invariant; there is one case for each kind of step. -/
theorem Thread.Follows.step {program : List (Call ν)} {drawn : Nat → List EventId} {last : UInt64}
    {t t' : Thread ν} {id : Option EventId} (h : t.Follows g settings program drawn)
    (steps : Thread.Steps g settings last t id t') :
    t'.Follows g settings program (drawnNext drawn t.answers.length id) := by
  cases steps with
  | idle progress answers =>
    rw [drawnNext_none]
    exact h
  | defect found =>
    rw [drawnNext_none]
    exact h.answered (h.underway_current.defect found)
  | walk found =>
    refine h.goesOn ?_
    rw [Option.toList_none, List.append_nil]
    exact h.underway_current.walk found
  | draw => exact h.goesOn (h.underway_current.draw _)
  | noTime reading =>
    rw [drawnNext_none]
    exact h.answered (h.underway_current.noTime reading)
  | time reading =>
    refine h.goesOn ?_
    rw [Option.toList_none, List.append_nil]
    exact h.underway_current.time reading
  | event =>
    rw [drawnNext_none]
    exact h.answered h.underway_current.event

/-- What was drawn for the calls past the end of a program: nothing. -/
theorem Thread.Follows.past_end {program : List (Call ν)} {drawn : Nat → List EventId}
    {t : Thread ν} (h : t.Follows g settings program drawn) {n : Nat} (hn : program.length ≤ n) :
    drawn n = [] := by
  have within := h.within
  by_cases ahead : t.answers.length < n
  · exact h.ahead n ahead
  · have last : n = program.length := by omega
    rw [last]
    exact h.noCall

end Steps
end EventLineage.Interleaving
