import EventLineage.Proofs.Interleaving.Sequential

/-! # Every call is answered in the end

Only its own steps bring a thread forward, and each of them does. What a thread has left is counted
in steps; once it has been let take enough of them, its calls are answered, whatever the others
do. -/
namespace EventLineage.Interleaving

variable {ν : Type}

/-- The steps taken for the current call. -/
def Progress.taken : Progress → Nat
  | .begun => 0
  | .walked _ => 1
  | .drawn _ _ => 2
  | .timed _ _ _ => 3

/-- The most steps that a thread has still to take. -/
def Thread.left (t : Thread ν) : Nat := stepsOfCall * t.calls.length - t.progress.taken

/-- The same of the thread with an index; no thread has nothing left. -/
def State.left (s : State ν) (index : Nat) : Nat := (s.threads[index]?.map Thread.left).getD 0

private theorem Progress.taken_lt (progress : Progress) : progress.taken < stepsOfCall := by
  cases progress <;> simp [taken, stepsOfCall]

/-- The current call counts in full but for the steps taken for it, which are never all of them. -/
theorem Thread.calls_lt_left (t : Thread ν) :
    stepsOfCall * t.calls.length < t.left + stepsOfCall := by
  have taken := t.progress.taken_lt
  unfold left
  omega

private theorem State.left_start {programs : List (List (Call ν))} {i : Nat}
    {program : List (Call ν)} (h : programs[i]? = some program) :
    (State.start programs).left i = stepsOfCall * program.length := by
  simp [State.left, State.start, h, Thread.left, Thread.start, Progress.taken]

section Steps

variable [DecidableEq ν] {g : CauseGraph ν} {settings : Settings}

/-- A thread that takes a step has less left, unless it had nothing left. -/
theorem Thread.Steps.left_le {last : UInt64} {t t' : Thread ν} {id : Option EventId}
    (h : Thread.Steps g settings last t id t') : t'.left ≤ t.left - 1 := by
  cases h with
  | idle => simp [Thread.left]
  | defect | walk | draw | noTime | time | event =>
    simp only [Thread.left, Progress.taken, stepsOfCall, List.length_cons]
    omega

variable (g settings)

private theorem State.left_step (s : State ν) (i j : Nat) :
    (s.step g settings j).left i ≤ s.left i - [j].count i := by
  cases ht : s.threads[j]? with
  | none =>
    rw [(State.step_of_none g settings ht).1]
    by_cases same : j = i
    · subst same
      simp [State.left, ht]
    · simp [same]
  | some t =>
    have lt : j < s.threads.length := (List.getElem?_eq_some_iff.1 ht).1
    rw [(State.step_of_some g settings ht).1]
    by_cases same : j = i
    · subst same
      have less := (t.steps_step g settings s.last).1.left_le
      simpa only [State.left, ht, List.getElem?_set_self lt, Option.map_some, Option.getD_some,
        List.count_singleton_self] using less
    · simp [State.left, same]

/-- The induction is on the schedule; the steps of the other threads take nothing from what is
left. -/
theorem State.left_run (s : State ν) (schedule : List Nat) (i : Nat) :
    (s.run g settings schedule).left i ≤ s.left i - schedule.count i := by
  induction schedule generalizing s with
  | nil => exact Nat.le_refl _
  | cons j rest ih =>
    have first := s.left_step g settings i j
    have others := ih (s.step g settings j)
    have counted : (j :: rest).count i = [j].count i + rest.count i := by
      rw [← List.count_append, List.singleton_append]
    show ((s.step g settings j).run g settings rest).left i ≤ _
    omega

variable {g settings}

/-- A call has its answer when no more is left to its thread than the calls behind it need. -/
theorem State.Tracks.exists_answerAt {programs : List (List (Call ν))} {past : List Draw}
    {s : State ν} (h : s.Tracks g settings programs past) {p : Place} {program : List (Call ν)}
    {call : Call ν} (hp : programs[p.thread]? = some program)
    (hc : program[p.position]? = some call)
    (left : s.left p.thread ≤ stepsOfCall * program.length - stepsOfCall * (p.position + 1)) :
    ∃ answer, s.answerAt p = some answer := by
  have position : p.position < program.length := (List.getElem?_eq_some_iff.1 hc).1
  have thread : p.thread < s.threads.length := by
    rw [h.count]
    exact (List.getElem?_eq_some_iff.1 hp).1
  have ht := List.getElem?_eq_getElem thread
  have follows := h.follows _ _ _ hp ht
  generalize s.threads[p.thread] = t at ht follows
  have behind := t.calls_lt_left
  have calls : t.calls.length = program.length - t.answers.length := by
    rw [follows.calls, List.length_drop]
  simp only [State.left, ht, Option.map_some, Option.getD_some, stepsOfCall] at left behind
  have answered : p.position < t.answers.length := by omega
  exact ⟨_, Option.bind_eq_some_iff.2 ⟨t, ht, List.getElem?_eq_getElem answered⟩⟩

variable (g settings)

/-- A call is answered as soon as its thread has taken four steps for it and for each of its calls
before it, and the answer is settled by what was drawn for the call. -/
theorem answered_in_time (programs : List (List (Call ν))) (schedule : List Nat) {p : Place}
    {call : Call ν} (hc : callAt programs p = some call)
    (enough : stepsOfCall * (p.position + 1) ≤ schedule.count p.thread) :
    ∃ answer, ((State.start programs).run g settings schedule).answerAt p = some answer ∧
      Settled g settings call
        (drawnFor ((State.start programs).draws g settings schedule) p) answer := by
  have tracks : ((State.start programs).run g settings schedule).Tracks g settings programs
      ((State.start programs).draws g settings schedule) := by
    simpa using (State.tracks_start programs).run schedule
  obtain ⟨program, hp, here⟩ := Option.bind_eq_some_iff.1 hc
  have left := (State.start programs).left_run g settings schedule p.thread
  rw [State.left_start hp] at left
  obtain ⟨answer, ha⟩ := tracks.exists_answerAt hp here (by omega)
  exact ⟨answer, ha, tracks.settles hc ha⟩

end Steps

private theorem count_rounds {threads i : Nat} (h : i < threads) (count : Nat) :
    (rounds threads count).count i = count := by
  have once : (List.range threads).count i = 1 :=
    Nat.le_antisymm (List.nodup_iff_count.1 List.nodup_range i)
      (List.count_pos_iff.2 (List.mem_range.2 h))
  simp [rounds, List.count_flatten, once]

/-- Threads that take turns answer all their calls, and an identifier was drawn for just those calls
whose failure carries a rejection. -/
theorem answered_in_rounds [DecidableEq ν] (g : CauseGraph ν) (settings : Settings)
    (programs : List (List (Call ν))) (count : Nat)
    (enough : ∀ program ∈ programs, stepsOfCall * program.length ≤ count) {p : Place}
    {call : Call ν} (hc : callAt programs p = some call) :
    (∃ answer, ((State.start programs).run g settings (rounds programs.length count)).answerAt p =
      some answer) ∧
    ((∃ id, drawnFor ((State.start programs).draws g settings (rounds programs.length count)) p =
        [id]) ↔
      ∃ r, g.Carries call.failure settings.maxCauseDepth.toNat r) := by
  obtain ⟨program, hp, here⟩ := Option.bind_eq_some_iff.1 hc
  have thread : p.thread < programs.length := (List.getElem?_eq_some_iff.1 hp).1
  have position : p.position < program.length := (List.getElem?_eq_some_iff.1 here).1
  have long := enough program (List.mem_of_getElem? hp)
  have turns : stepsOfCall * (p.position + 1) ≤ (rounds programs.length count).count p.thread := by
    rw [count_rounds thread]
    exact Nat.le_trans (Nat.mul_le_mul_left _ position) long
  obtain ⟨answer, ha, settled⟩ := answered_in_time g settings programs _ hc turns
  refine ⟨⟨answer, ha⟩, ?_⟩
  generalize drawnFor _ p = ids at settled
  cases settled with
  | defect found =>
    refine ⟨fun drawn => ?_, fun ⟨r, carries⟩ => ?_⟩
    · obtain ⟨id, empty⟩ := drawn
      cases empty
    · obtain ⟨e, other⟩ := (g.exists_unwrap_eq_ok_iff call.entry _ _ r).2 carries
      cases found.symm.trans other
  | noTime id found | event id found =>
    exact ⟨fun _ => ⟨_, (g.exists_unwrap_eq_ok_iff call.entry _ _ _).1 ⟨_, found⟩⟩,
      fun _ => ⟨id, rfl⟩⟩

end EventLineage.Interleaving
