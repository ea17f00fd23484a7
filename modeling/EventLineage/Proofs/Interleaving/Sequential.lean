import EventLineage.Proofs.Interleaving.Draws

/-! # Interleaved refusals are as good as sequential ones

The history of draws decides everything: the n-th draw gives the identifier n, a call draws at most
once, and only if its failure carries a rejection, and its answer is the one that it gets when the
calls that drew are made one after the other. -/
namespace EventLineage.Interleaving

section Runs

variable {ν : Type} [DecidableEq ν] {g : CauseGraph ν} {settings : Settings}

/-! ## The invariant of a run -/

variable (g settings) in
/-- Threads that run these programs have come to a state by these draws. -/
structure State.Tracks (programs : List (List (Call ν))) (past : List Draw)
    (s : State ν) : Prop where
  last : s.last = UInt64.ofNat past.length
  ids : past.map Draw.id = (List.range past.length).map fun n =>
    Supply.numbered (UInt64.ofNat (n + 1))
  count : s.threads.length = programs.length
  follows : ∀ i program (t : Thread ν), programs[i]? = some program → s.threads[i]? = some t →
    t.Follows g settings program fun n => drawnFor past ⟨i, n⟩
  strangers : ∀ i n, programs.length ≤ i → drawnFor past ⟨i, n⟩ = []

theorem State.tracks_start (programs : List (List (Call ν))) :
    (State.start programs).Tracks g settings programs [] where
  last := rfl
  ids := rfl
  count := by simp [State.start]
  follows i program t hp ht := by
    simp only [State.start, List.getElem?_map, hp, Option.map_some, Option.some.injEq] at ht
    rw [← ht]
    exact Thread.follows_start program
  strangers i n _ := rfl

variable (g settings) in
theorem State.step_of_none {s : State ν} {i : Nat} (h : s.threads[i]? = none) :
    s.step g settings i = s ∧ s.draw? g settings i = none := by
  simp [State.step, State.draw?, h]

variable (g settings) in
theorem State.step_of_some {s : State ν} {i : Nat} {t : Thread ν} (h : s.threads[i]? = some t) :
    s.step g settings i =
        ⟨(t.step g settings s.last).2, s.threads.set i (t.step g settings s.last).1⟩ ∧
      s.draw? g settings i =
        (t.drew? (t.step g settings s.last).1).map (Draw.mk ⟨i, t.answers.length⟩) := by
  have lt : i < s.threads.length := (List.getElem?_eq_some_iff.1 h).1
  have step : s.step g settings i =
      ⟨(t.step g settings s.last).2, s.threads.set i (t.step g settings s.last).1⟩ := by
    simp only [State.step, h]
  refine ⟨step, ?_⟩
  simp only [State.draw?, step, h, List.getElem?_set_self lt]

/-- Each draw gives the identifier that comes after those drawn so far. -/
theorem State.Tracks.counts {programs : List (List (Call ν))} {past : List Draw} {s : State ν}
    (h : s.Tracks g settings programs past) {t t' : Thread ν} {id : Option EventId} (p : Place)
    (steps : Thread.Steps g settings s.last t id t') :
    (if id.isSome then s.last + 1 else s.last) =
        UInt64.ofNat (past ++ (id.map (Draw.mk p)).toList).length ∧
      (past ++ (id.map (Draw.mk p)).toList).map Draw.id =
        (List.range (past ++ (id.map (Draw.mk p)).toList).length).map
          fun n => Supply.numbered (UInt64.ofNat (n + 1)) := by
  have next : s.last + 1 = UInt64.ofNat (past.length + 1) := by
    rw [h.last, UInt64.ofNat_add]
    rfl
  cases steps with
  | draw =>
    simp only [Option.isSome_some, ↓reduceIte, Option.map_some, Option.toList_some,
      List.length_append, List.length_singleton, List.map_append, List.map_cons, List.map_nil,
      List.range_succ, h.ids, next, and_self]
  | idle | defect | walk | noTime | time | event =>
    simp only [Option.isSome_none, Bool.false_eq_true, ↓reduceIte, Option.map_none,
      Option.toList_none, List.append_nil]
    exact ⟨h.last, h.ids⟩

/-- Each step of the system keeps the invariant. -/
theorem State.Tracks.step {programs : List (List (Call ν))} {past : List Draw} {s : State ν}
    (h : s.Tracks g settings programs past) (i : Nat) :
    (s.step g settings i).Tracks g settings programs (past ++ (s.draw? g settings i).toList) := by
  cases ht : s.threads[i]? with
  | none =>
    obtain ⟨step, draw⟩ := State.step_of_none g settings ht
    rw [step, draw]
    simpa using h
  | some t =>
    have lt : i < s.threads.length := (List.getElem?_eq_some_iff.1 ht).1
    obtain ⟨step, draw⟩ := State.step_of_some g settings ht
    obtain ⟨steps, last⟩ := t.steps_step g settings s.last
    rw [step, draw]
    generalize (t.step g settings s.last).1 = t' at *
    generalize t.drew? t' = id at *
    obtain ⟨counted, ids⟩ := h.counts ⟨i, t.answers.length⟩ steps
    refine ⟨last.trans counted, ids, by simpa using h.count, fun j program u hp hu => ?_,
      fun j n hj => ?_⟩
    · have drawn :
          (fun n => drawnFor (past ++ (id.map (Draw.mk ⟨i, t.answers.length⟩)).toList) ⟨j, n⟩) =
            fun n => drawnFor past ⟨j, n⟩ ++
              if i = j ∧ t.answers.length = n then id.toList else [] := by
        funext n
        rw [drawnFor_append, drawnFor_toList_map]
        simp only [Place.mk.injEq]
      rw [drawn]
      by_cases same : i = j
      · subst same
        simp only [List.getElem?_set_self lt, Option.some.injEq] at hu
        rw [← hu]
        simp only [true_and]
        exact (h.follows i program t hp ht).step steps
      · rw [List.getElem?_set_ne same] at hu
        simpa [same] using h.follows j program u hp hu
    · have other : i ≠ j := by
        have := h.count
        omega
      rw [drawnFor_append, drawnFor_toList_map]
      simp [h.strangers j n hj, other]

/-- Every run keeps the invariant; the induction is on the schedule. -/
theorem State.Tracks.run {programs : List (List (Call ν))} {past : List Draw} {s : State ν}
    (h : s.Tracks g settings programs past) (schedule : List Nat) :
    (s.run g settings schedule).Tracks g settings programs
      (past ++ s.draws g settings schedule) := by
  induction schedule generalizing s past with
  | nil => simpa [State.run, State.draws] using h
  | cons i rest ih =>
    have next := ih (h.step i)
    simpa [State.run, State.draws] using next

/-! ## What the invariant says of a call -/

namespace State.Tracks

variable {programs : List (List (Call ν))} {past : List Draw} {s : State ν} {p : Place}
  {call : Call ν} {answer : Except (RefusalError ν) Event} {id : EventId}

private theorem program_and_thread (h : s.Tracks g settings programs past)
    (hc : callAt programs p = some call) :
    ∃ program t, s.threads[p.thread]? = some t ∧ program[p.position]? = some call ∧
      Thread.Follows g settings program (fun n => drawnFor past ⟨p.thread, n⟩) t := by
  obtain ⟨program, hp, hc⟩ := Option.bind_eq_some_iff.1 hc
  have lt : p.thread < s.threads.length := by
    rw [h.count]
    exact (List.getElem?_eq_some_iff.1 hp).1
  have ht := List.getElem?_eq_getElem lt
  exact ⟨program, s.threads[p.thread], ht, hc, h.follows _ _ _ hp ht⟩

theorem settles (h : s.Tracks g settings programs past) (hc : callAt programs p = some call)
    (ha : s.answerAt p = some answer) : Settled g settings call (drawnFor past p) answer := by
  obtain ⟨program, t, ht, hc, follows⟩ := h.program_and_thread hc
  obtain ⟨t', ht', ha⟩ := Option.bind_eq_some_iff.1 ha
  rw [ht] at ht'
  cases ht'
  exact follows.settled _ _ _ hc ha

/-- For a call that has come to any point, at most one identifier was drawn, and only if its failure
carries a rejection. -/
theorem drawnFor_eq (h : s.Tracks g settings programs past) (hc : callAt programs p = some call) :
    drawnFor past p = [] ∨
      ∃ id e r, drawnFor past p = [id] ∧ call.found g settings = .ok (e, r) := by
  obtain ⟨program, t, ht, hp, follows⟩ := h.program_and_thread hc
  rcases Nat.lt_trichotomy p.position t.answers.length with answered | current | ahead
  · have settled := follows.settled _ _ _ hp (List.getElem?_eq_getElem answered)
    generalize drawnFor past _ = ids at settled ⊢
    generalize t.answers[p.position] = answer at settled
    cases settled with
    | defect => exact .inl rfl
    | noTime id found => exact .inr ⟨id, _, _, rfl, found⟩
    | event id found => exact .inr ⟨id, _, _, rfl, found⟩
  · have underway := follows.underway call (current ▸ hp)
    rw [← current] at underway
    generalize drawnFor past _ = ids at underway ⊢
    generalize t.progress = progress at underway
    cases underway with
    | begun | walked => exact .inl rfl
    | drawn id found => exact .inr ⟨id, _, _, rfl, found⟩
    | timed id found => exact .inr ⟨id, _, _, rfl, found⟩
  · exact .inl (follows.ahead _ ahead)

/-- Each identifier was drawn for a call of the programs whose failure carries a rejection. -/
theorem call_of_mem (h : s.Tracks g settings programs past) (hd : ⟨p, id⟩ ∈ past) :
    ∃ call e r, callAt programs p = some call ∧ call.found g settings = .ok (e, r) := by
  have drawn : id ∈ drawnFor past p := mem_drawnFor.2 hd
  have thread : p.thread < programs.length := by
    refine Nat.lt_of_not_le fun le => ?_
    rw [h.strangers p.thread p.position le] at drawn
    cases drawn
  have here : p.thread < s.threads.length := by
    rw [h.count]
    exact thread
  have hp := List.getElem?_eq_getElem thread
  have follows := h.follows _ _ _ hp (List.getElem?_eq_getElem here)
  have position : p.position < programs[p.thread].length := by
    refine Nat.lt_of_not_le fun le => ?_
    rw [follows.past_end le] at drawn
    cases drawn
  have hc : callAt programs p = some programs[p.thread][p.position] :=
    Option.bind_eq_some_iff.2 ⟨_, hp, List.getElem?_eq_getElem position⟩
  rcases h.drawnFor_eq hc with none | ⟨_, e, r, _, found⟩
  · rw [none] at drawn
    cases drawn
  · exact ⟨_, e, r, hc, found⟩

private theorem callAt_of_answerAt (h : s.Tracks g settings programs past)
    (ha : s.answerAt p = some answer) :
    ∃ call, callAt programs p = some call := by
  obtain ⟨t, ht, ha⟩ := Option.bind_eq_some_iff.1 ha
  have thread : p.thread < programs.length := by
    rw [← h.count]
    exact (List.getElem?_eq_some_iff.1 ht).1
  have hp := List.getElem?_eq_getElem thread
  have within := (h.follows _ _ _ hp ht).within
  have position : p.position < programs[p.thread].length :=
    Nat.lt_of_lt_of_le (List.getElem?_eq_some_iff.1 ha).1 within
  exact ⟨_, Option.bind_eq_some_iff.2 ⟨_, hp, List.getElem?_eq_getElem position⟩⟩

theorem nodup_places (h : s.Tracks g settings programs past) : (past.map Draw.place).Nodup := by
  refine List.nodup_iff_count.2 fun p => ?_
  have count : (past.map Draw.place).count p = (drawnFor past p).length := by
    rw [List.count, List.countP_map, List.countP_eq_length_filter, drawnFor, List.length_map]
    rfl
  rw [count]
  by_cases none : drawnFor past p = []
  · simp [none]
  · obtain ⟨id, hid⟩ := List.exists_mem_of_ne_nil _ none
    obtain ⟨call, e, r, hc, -⟩ := h.call_of_mem (mem_drawnFor.1 hid)
    rcases h.drawnFor_eq hc with one | ⟨_, _, _, one, -⟩ <;> simp [one]

theorem ids_eq (h : s.Tracks g settings programs past) (few : past.length < UInt64.size) :
    past.map Draw.id = (List.range past.length).map fun n => Identifier.ofNat (n + 1) := by
  rw [h.ids]
  refine List.map_congr_left fun n hn => ?_
  have lt := List.mem_range.1 hn
  have small : n + 1 < UInt64.size := by omega
  simp only [Supply.numbered, UInt64.toNat_ofNat_of_lt' small]

theorem nodup_ids (h : s.Tracks g settings programs past) (few : past.length < UInt64.size) :
    (past.map Draw.id).Nodup := by
  rw [h.ids]
  refine List.pairwise_map.2 (List.nodup_range.imp_of_mem fun {m n} hm hn ne same => ne ?_)
  have hm := List.mem_range.1 hm
  have hn := List.mem_range.1 hn
  have eq := congrArg UInt64.toNat (Supply.numbered_injective same)
  rw [UInt64.toNat_ofNat_of_lt' (by omega), UInt64.toNat_ofNat_of_lt' (by omega)] at eq
  omega

theorem place_unique (h : s.Tracks g settings programs past) (few : past.length < UInt64.size)
    {q : Place} (hp : ⟨p, id⟩ ∈ past) (hq : ⟨q, id⟩ ∈ past) : p = q := by
  have distinct := List.pairwise_map.1 (h.nodup_ids few)
  obtain ⟨i, hi, hp⟩ := List.mem_iff_getElem.1 hp
  obtain ⟨j, hj, hq⟩ := List.mem_iff_getElem.1 hq
  rcases Nat.lt_trichotomy i j with less | same | more
  · have ne := List.pairwise_iff_getElem.1 distinct i j hi hj less
    simp [hp, hq] at ne
  · subst same
    rw [hp] at hq
    exact congrArg Draw.place hq
  · have ne := List.pairwise_iff_getElem.1 distinct j i hj hi more
    simp [hp, hq] at ne

/-- The identifier of an event was drawn for the call that the event answers. -/
theorem mem_of_event (h : s.Tracks g settings programs past) {event : Event}
    (ha : s.answerAt p = some (.ok event)) : ⟨p, event.id⟩ ∈ past := by
  obtain ⟨call, hc⟩ := h.callAt_of_answerAt ha
  have settled := h.settles hc ha
  rw [← mem_drawnFor]
  generalize drawnFor past p = ids at settled ⊢
  cases settled
  exact List.mem_singleton.2 rfl

private theorem event_ids_ne (h : s.Tracks g settings programs past)
    (few : past.length < UInt64.size) {i j : Nat} {t u : Thread ν} (ht : s.threads[i]? = some t)
    (hu : s.threads[j]? = some u) {m n : Nat} {a b : Event} (ha : t.answers[m]? = some (.ok a))
    (hb : u.answers[n]? = some (.ok b)) (ne : i ≠ j ∨ m ≠ n) : a.id ≠ b.id := by
  intro same
  have ma := h.mem_of_event (p := ⟨i, m⟩) (Option.bind_eq_some_iff.2 ⟨t, ht, ha⟩)
  have mb := h.mem_of_event (p := ⟨j, n⟩) (Option.bind_eq_some_iff.2 ⟨u, hu, hb⟩)
  rw [← same] at mb
  have eq := h.place_unique few ma mb
  simp only [Place.mk.injEq] at eq
  omega

theorem nodup_event_ids (h : s.Tracks g settings programs past) (few : past.length < UInt64.size) :
    (s.events.map Event.id).Nodup := by
  have ok {x : Except (RefusalError ν) Event} {a : Event} (hx : x.toOption = some a) :
      x = .ok a := by
    cases x with
    | error => cases hx
    | ok => exact congrArg _ (Option.some.inj hx)
  refine List.pairwise_map.2 (List.pairwise_filterMap.2
    (List.pairwise_flatMap.2 ⟨fun t ht => ?_, ?_⟩))
  · obtain ⟨i, hi, ht⟩ := List.mem_iff_getElem.1 ht
    refine List.pairwise_iff_getElem.2 fun m n hm hn lt a ha b hb => ?_
    have ht : s.threads[i]? = some t := List.getElem?_eq_some_iff.2 ⟨hi, ht⟩
    exact h.event_ids_ne few ht ht (List.getElem?_eq_some_iff.2 ⟨hm, ok ha⟩)
      (List.getElem?_eq_some_iff.2 ⟨hn, ok hb⟩) (.inr (Nat.ne_of_lt lt))
  · refine List.pairwise_iff_getElem.2 fun i j hi hj lt x hx y hy a ha b hb => ?_
    obtain ⟨m, hm, hx⟩ := List.mem_iff_getElem.1 hx
    obtain ⟨n, hn, hy⟩ := List.mem_iff_getElem.1 hy
    exact h.event_ids_ne few (List.getElem?_eq_getElem hi) (List.getElem?_eq_getElem hj)
      (List.getElem?_eq_some_iff.2 ⟨hm, hx.trans (ok ha)⟩)
      (List.getElem?_eq_some_iff.2 ⟨hn, hy.trans (ok hb)⟩) (.inl (Nat.ne_of_lt lt))

/-- A call that the clock fails has one identifier, and no event has that identifier. -/
theorem noTime (h : s.Tracks g settings programs past) (few : past.length < UInt64.size)
    {e : ν} {r : Rejection} {fault : ν} (hc : callAt programs p = some call)
    (ha : s.answerAt p = some answer) (found : call.found g settings = .ok (e, r))
    (reading : call.reading = .error fault) :
    ∃ id, drawnFor past p = [id] ∧ answer = .error (.assembly (.clock fault)) ∧
      ∀ event ∈ s.events, event.id ≠ id := by
  have settled := h.settles hc ha
  have shape : ∃ id, drawnFor past p = [id] ∧ answer = .error (.assembly (.clock fault)) := by
    generalize drawnFor past p = ids at settled
    cases settled with
    | defect h' => simp_all
    | noTime id h' hr => exact ⟨id, rfl, by simp_all⟩
    | event id h' hr => simp_all
  obtain ⟨id, drawn, refused⟩ := shape
  refine ⟨id, drawn, refused, fun event he same => ?_⟩
  obtain ⟨q, hq⟩ := State.exists_answerAt he
  have mem : ⟨p, id⟩ ∈ past := mem_drawnFor.1 (by simp [drawn])
  have place := h.place_unique few mem (same ▸ h.mem_of_event hq)
  rw [← place, ha, refused] at hq
  cases hq

end State.Tracks

/-! ## The same calls, one after the other -/

/-- The refuser that the threads share: it counts identifiers, and its clock gives listed
readings. -/
def shared (settings : Settings) (exhausted : ν) :
    Refuser (UInt64 × List (Except ν Instant)) ν where
  assembler :=
    { nextId := Supply.within Prod.fst (fun last s => (last, s.2)) Supply.counted
      now := Supply.within Prod.snd (fun readings s => (s.1, readings)) (Supply.listed exhausted) }
  settings := settings

/-- The results of calls that a refuser is asked for one after the other. -/
def sequentially {σ : Type} (f : Refuser σ ν) (g : CauseGraph ν) :
    List (Call ν) → σ → List (Except (RefusalError ν) Event)
  | [], _ => []
  | call :: rest, s =>
    let refused := f.refuse g call.command call.entry call.failure s
    refused.result :: sequentially f g rest refused.state

theorem Settled.unique {call : Call ν} {ids : List EventId} {a b : Except (RefusalError ν) Event}
    (ha : Settled g settings call ids a) (hb : Settled g settings call ids b) : a = b := by
  cases ha with
  | defect h =>
    cases hb with
    | defect h' => simp_all
  | noTime id h hr =>
    cases hb with
    | noTime _ h' hr' => simp_all
    | event _ h' hr' => simp_all
  | event id h hr =>
    cases hb with
    | noTime _ h' hr' => simp_all
    | event _ h' hr' => simp_all

/-- A call whose failure carries a rejection takes the next identifier and the next reading. -/
theorem refuse_shared {call : Call ν} {e : ν} {r : Rejection} (exhausted : ν) (last : UInt64)
    (readings : List (Except ν Instant)) (h : call.found g settings = .ok (e, r)) :
    Settled g settings call [Supply.numbered (last + 1)]
        ((shared settings exhausted).refuse g call.command call.entry call.failure
          (last, call.reading :: readings)).result ∧
      ((shared settings exhausted).refuse g call.command call.entry call.failure
          (last, call.reading :: readings)).state = (last + 1, readings) := by
  have unwrapped : g.unwrap call.entry (shared settings exhausted).settings.maxCauseDepth.toNat
      call.failure = .ok (e, r) := h
  have id : (shared settings exhausted).assembler.nextId (last, call.reading :: readings) =
      (.ok (Supply.numbered (last + 1)), (last + 1, call.reading :: readings)) := rfl
  have now : (shared settings exhausted).assembler.now (last + 1, call.reading :: readings) =
      (call.reading, (last + 1, readings)) := rfl
  cases hr : call.reading with
  | error fault =>
    rw [hr] at id now
    rw [Refuser.refuse_of_noTime unwrapped id now]
    exact ⟨.noTime _ h hr, rfl⟩
  | ok time =>
    rw [hr] at id now
    rw [Refuser.refuse_of_event unwrapped id now]
    exact ⟨.event _ h hr, rfl⟩

/-- The induction is on the calls; each of them leaves the count and the readings for the next
one. -/
theorem sequentially_settles (exhausted : ν) {calls : List (Call ν)} (last : Nat)
    (found : ∀ call ∈ calls, ∃ e r, call.found g settings = .ok (e, r)) {k : Nat} {call : Call ν}
    (hk : calls[k]? = some call) :
    ∃ answer, (sequentially (shared settings exhausted) g calls
        (UInt64.ofNat last, calls.map Call.reading))[k]? = some answer ∧
      Settled g settings call [Supply.numbered (UInt64.ofNat (last + k + 1))] answer := by
  induction calls generalizing last k with
  | nil => simp at hk
  | cons first rest ih =>
    obtain ⟨e, r, hfirst⟩ := found first List.mem_cons_self
    obtain ⟨settled, state⟩ :=
      refuse_shared exhausted (UInt64.ofNat last) (rest.map Call.reading) hfirst
    have next : UInt64.ofNat last + 1 = UInt64.ofNat (last + 1) := by
      rw [UInt64.ofNat_add]
      rfl
    cases k with
    | zero =>
      simp only [List.getElem?_cons_zero, Option.some.injEq] at hk
      subst hk
      rw [next] at settled
      exact ⟨_, rfl, settled⟩
    | succ k =>
      simp only [List.getElem?_cons_succ] at hk
      have tail := ih (last + 1) (fun c hc => found c (List.mem_cons_of_mem _ hc)) hk
      simp only [sequentially, List.map_cons, List.getElem?_cons_succ]
      rw [state, next]
      have index : last + (k + 1) + 1 = last + 1 + k + 1 := by omega
      rw [index]
      exact tail

namespace State.Tracks

variable {programs : List (List (Call ν))} {past : List Draw} {s : State ν} {p : Place}
  {call : Call ν} {answer : Except (RefusalError ν) Event} {id : EventId}

theorem exists_calls (h : s.Tracks g settings programs past) :
    ∃ calls : List (Call ν), (past.map fun d => callAt programs d.place) = calls.map some ∧
      ∀ call ∈ calls, ∃ e r, call.found g settings = .ok (e, r) := by
  have all : ∀ d ∈ past, ∃ call e r, callAt programs d.place = some call ∧
      call.found g settings = .ok (e, r) := fun d hd => h.call_of_mem hd
  clear h
  induction past with
  | nil => exact ⟨[], rfl, fun call hc => by cases hc⟩
  | cons d rest ih =>
    obtain ⟨call, e, r, hc, found⟩ := all d List.mem_cons_self
    obtain ⟨calls, eq, founds⟩ := ih fun d hd => all d (List.mem_cons_of_mem _ hd)
    refine ⟨call :: calls, by simp only [List.map_cons, hc, eq], fun c hmem => ?_⟩
    rcases List.mem_cons.1 hmem with rfl | hmem
    · exact ⟨e, r, found⟩
    · exact founds c hmem

/-- A call that drew an identifier is answered as it would be when its turn came in the order of the
draws. -/
theorem answer_eq_sequential (h : s.Tracks g settings programs past) (exhausted : ν)
    {calls : List (Call ν)} (hcalls : (past.map fun d => callAt programs d.place) = calls.map some)
    (found : ∀ call ∈ calls, ∃ e r, call.found g settings = .ok (e, r)) (hd : ⟨p, id⟩ ∈ past)
    (ha : s.answerAt p = some answer) :
    ∃ (k : Nat) (call : Call ν), past[k]? = some ⟨p, id⟩ ∧ calls[k]? = some call ∧
      callAt programs p = some call ∧
      (sequentially (shared settings exhausted) g calls (0, calls.map Call.reading))[k]? =
        some answer := by
  obtain ⟨k, hk, eq⟩ := List.mem_iff_getElem.1 hd
  have here : past[k]? = some ⟨p, id⟩ := List.getElem?_eq_some_iff.2 ⟨hk, eq⟩
  have place := congrArg (fun l => l[k]?) hcalls
  simp only [List.getElem?_map, here, Option.map_some] at place
  obtain ⟨call, hcall, hc⟩ := Option.map_eq_some_iff.1 place.symm
  have number := congrArg (fun l => l[k]?) h.ids
  simp only [List.getElem?_map, here, List.getElem?_range hk, Option.map_some,
    Option.some.injEq] at number
  obtain ⟨answer', hs, settled'⟩ := sequentially_settles exhausted 0 found hcall
  have settled := h.settles hc.symm ha
  have drawn : drawnFor past p = [id] := by
    have mem := mem_drawnFor.2 hd
    rcases h.drawnFor_eq hc.symm with none | ⟨_, _, _, one, -⟩
    · rw [none] at mem
      cases mem
    · rw [one, List.mem_singleton] at mem
      rw [one, mem]
  rw [drawn, number] at settled
  rw [Nat.zero_add] at settled'
  rw [settled'.unique settled] at hs
  exact ⟨k, call, here, hcall, hc.symm, hs⟩

end State.Tracks

variable (g settings) in
/-- Whatever the order in which threads take their steps, as long as the counter does not wrap
around: the identifiers drawn are 1, 2, 3, …; a failure without a rejection draws none; a call that
the clock fails uses up its own; and every event is the one that its call gets when the calls that
drew are made one after the other. -/
theorem interleaved_as_sequential (programs : List (List (Call ν))) (schedule : List Nat)
    (exhausted : ν)
    (few : ((State.start programs).draws g settings schedule).length < UInt64.size) :
    let s := (State.start programs).run g settings schedule
    let draws := (State.start programs).draws g settings schedule
    draws.map Draw.id = (List.range draws.length).map (fun n => Identifier.ofNat (n + 1)) ∧
    (draws.map Draw.id).Nodup ∧ (draws.map Draw.place).Nodup ∧ (s.events.map Event.id).Nodup ∧
    (∀ p call, callAt programs p = some call →
      (¬∃ r, g.Carries call.failure settings.maxCauseDepth.toNat r) →
        drawnFor draws p = [] ∧
          ∀ answer, s.answerAt p = some answer → ∃ d, answer = .error (.defect d)) ∧
    (∀ p call r fault answer, callAt programs p = some call → s.answerAt p = some answer →
      g.Carries call.failure settings.maxCauseDepth.toNat r → call.reading = .error fault →
        ∃ id, drawnFor draws p = [id] ∧ answer = .error (.assembly (.clock fault)) ∧
          ∀ event ∈ s.events, event.id ≠ id) ∧
    ∃ calls : List (Call ν), (draws.map fun d => callAt programs d.place) = calls.map some ∧
      ∀ p event, s.answerAt p = some (.ok event) →
        ∃ (k : Nat) (call : Call ν) (r : Rejection),
          draws[k]? = some ⟨p, event.id⟩ ∧ calls[k]? = some call ∧ callAt programs p = some call ∧
          (sequentially (shared settings exhausted) g calls (0, calls.map Call.reading))[k]? =
            some (.ok event) ∧
          g.Carries call.failure settings.maxCauseDepth.toNat r ∧
          call.reading = .ok event.timestamp ∧ event.message = r.message ∧
          event.producer = settings.producerOf r ∧ event.origin = call.command.asOrigin ∧
          event.rejection? = some ⟨call.command, r.trace⟩ := by
  intro s draws
  have tracks : s.Tracks g settings programs draws := by
    simpa using (State.tracks_start programs).run schedule
  refine ⟨tracks.ids_eq few, tracks.nodup_ids few, tracks.nodup_places, tracks.nodup_event_ids few,
    fun p call hc none => ?_, fun p call r fault answer hc ha carries reading => ?_, ?_⟩
  · have drawn : drawnFor draws p = [] := by
      rcases tracks.drawnFor_eq hc with nothing | ⟨id, e, r, -, found⟩
      · exact nothing
      · exact absurd ⟨r, (g.exists_unwrap_eq_ok_iff call.entry _ _ r).1 ⟨e, found⟩⟩ none
    refine ⟨drawn, fun answer ha => ?_⟩
    have settled := tracks.settles hc ha
    rw [drawn] at settled
    cases settled with
    | defect found => exact ⟨_, rfl⟩
  · obtain ⟨e, found⟩ := (g.exists_unwrap_eq_ok_iff call.entry _ _ r).2 carries
    exact tracks.noTime few hc ha found reading
  · obtain ⟨calls, hcalls, founds⟩ := tracks.exists_calls
    refine ⟨calls, hcalls, fun p event ha => ?_⟩
    obtain ⟨k, call, hk, hcall, hc, same⟩ :=
      tracks.answer_eq_sequential exhausted hcalls founds (tracks.mem_of_event ha) ha
    have settled := tracks.settles hc ha
    generalize drawnFor draws p = ids at settled
    cases settled with
    | @event e r time id found reading =>
      have carries := (g.exists_unwrap_eq_ok_iff call.entry _ _ r).1 ⟨e, found⟩
      exact ⟨k, call, r, hk, hcall, hc, same, carries, reading, rfl, rfl, rfl, rfl⟩

end Runs

/-! Two threads, three calls: one is answered by an event, one is failed by the clock after it has
drawn an identifier, and one has a failure that carries no rejection. -/

/-- A rejection, and an error that is none. -/
def sampleGraph : CauseGraph Bool where
  cause _ := none
  display e := toString e
  debug e := toString e
  familiar _ := none
  rejection
    | true => some ⟨"Overdrawn", default, none, "Overdrawn: true"⟩
    | false => none

def midnight : Instant := ⟨⟨2024, 1, 1⟩, 0, 0⟩

def sampleCall (n : Nat) (failure : Bool) (reading : Except Bool Instant) : Call Bool :=
  ⟨.ofMessage (.ofNat n) default ⟨.ofNat 7, none, midnight⟩, .erased, failure, reading⟩

def samplePrograms : List (List (Call Bool)) :=
  [[sampleCall 1 true (.ok midnight)],
    [sampleCall 2 true (.error false), sampleCall 3 false (.ok midnight)]]

/-- The threads take turns as they like. -/
def sampleSchedule : List Nat := [0, 1, 1, 0, 0, 1, 1, 0]

/-- The call of the first thread is the second to draw, and is the only one with an event. The first
draw is used up by the call that the clock fails. -/
theorem interleaved_samples :
    ((State.start samplePrograms).draws sampleGraph .standard sampleSchedule).length < UInt64.size ∧
    (State.start samplePrograms).draws sampleGraph .standard sampleSchedule =
      [⟨⟨1, 0⟩, .ofNat 1⟩, ⟨⟨0, 0⟩, .ofNat 2⟩] ∧
    ((State.start samplePrograms).draws sampleGraph .standard sampleSchedule).map Draw.id =
      [.ofNat 1, .ofNat 2] ∧
    (∃ event,
      ((State.start samplePrograms).run sampleGraph .standard sampleSchedule).answerAt ⟨0, 0⟩ =
        some (.ok event) ∧
      event.id = .ofNat 2 ∧ event.message = default ∧ event.timestamp = midnight ∧
      event.rejection? = some ⟨(sampleCall 1 true (.ok midnight)).command, "Overdrawn: true"⟩) ∧
    ((State.start samplePrograms).run sampleGraph .standard sampleSchedule).answerAt ⟨1, 0⟩ =
      some (.error (.assembly (.clock false))) ∧
    (∃ d, ((State.start samplePrograms).run sampleGraph .standard sampleSchedule).answerAt ⟨1, 1⟩ =
      some (.error (.defect d))) ∧
    drawnFor ((State.start samplePrograms).draws sampleGraph .standard sampleSchedule)
      ⟨1, 1⟩ = [] := by
  have draws : (State.start samplePrograms).draws sampleGraph .standard sampleSchedule =
      [⟨⟨1, 0⟩, .ofNat 1⟩, ⟨⟨0, 0⟩, .ofNat 2⟩] := by decide
  have few : ((State.start samplePrograms).draws sampleGraph .standard sampleSchedule).length <
      UInt64.size := by
    rw [draws]
    decide
  obtain ⟨ids, -, -, -, none, -⟩ :=
    interleaved_as_sequential sampleGraph .standard samplePrograms sampleSchedule false few
  refine ⟨few, draws, ?_, ⟨_, rfl, rfl, rfl, rfl, rfl⟩, rfl, ⟨_, rfl⟩, ?_⟩
  · rw [draws] at ids ⊢
    exact ids
  · refine (none ⟨1, 1⟩ (sampleCall 3 false (.ok midnight)) rfl ?_).1
    rintro ⟨r, carries⟩
    obtain ⟨e, found⟩ := (sampleGraph.exists_unwrap_eq_ok_iff .erased _ false r).2 carries
    cases found

end EventLineage.Interleaving
