import EventLineage.Failure.Walk
import EventLineage.Proofs.Failure.Chain

/-! # Where walks lead

A walk finds the first rejection of the chain of causes, if that stands within the links it follows.
If not, it stops at the end of the chain, in front of the closing error, or where it has followed
all of its links, whichever comes first. The errors met are different from each other and none of
them is a rejection; this carries the induction over the links. -/
namespace EventLineage.CauseGraph

variable {ν : Type} (g : CauseGraph ν)

/-- The errors met by a walk that has come to the error with an index. -/
structure Met (failure : ν) (index : Nat) (met : List ν) : Prop where
  mem_iff : ∀ e, e ∈ met ↔ ∃ i ≤ index, g.chain failure i = some e
  distinct : g.DistinctUpTo failure index
  noRejection : g.NoRejectionUpTo failure index

/-- What is so of the chain when a walk along so many links has led somewhere. -/
def LeadsTo (failure : ν) (links : Nat) : Walk ν → Prop
  | .found e r => ∃ k ≤ links, g.FirstRejection failure k e r
  | .stopped .terminal last =>
    ∃ n ≤ links, g.EndsAt failure n last ∧ g.NoRejectionUpTo failure n
  | .stopped .cycle last =>
    ∃ n < links, g.chain failure n = some last ∧ (∃ e, g.ClosesAt failure (n + 1) e) ∧
      g.NoRejectionUpTo failure n
  | .stopped .depthExceeded last =>
    g.chain failure links = some last ∧ (∃ e, g.cause last = some e) ∧
      g.DistinctUpTo failure links ∧ g.NoRejectionUpTo failure links

variable {g} {failure last next : ν} {n : Nat} {met : List ν}

namespace Met

theorem start (h : g.rejection failure = none) : g.Met failure 0 [failure] where
  mem_iff e := by
    constructor
    · intro mem
      exact ⟨0, Nat.le_refl 0, by rw [List.mem_singleton.1 mem]; rfl⟩
    · rintro ⟨i, hi, reached⟩
      obtain rfl := Nat.le_zero.1 hi
      exact List.mem_singleton.2 (Option.some.inj reached).symm
  distinct m hm j hj := by omega
  noRejection i hi e reached := by
    obtain rfl := Nat.le_zero.1 hi
    rw [← Option.some.inj reached]
    exact h

theorem step (h : g.Met failure n met) (reached : g.chain failure (n + 1) = some next)
    (fresh : next ∉ met) (hr : g.rejection next = none) : g.Met failure (n + 1) (next :: met) where
  mem_iff e := by
    rw [List.mem_cons, h.mem_iff]
    constructor
    · rintro (rfl | ⟨i, hi, found⟩)
      · exact ⟨n + 1, Nat.le_refl _, reached⟩
      · exact ⟨i, Nat.le_succ_of_le hi, found⟩
    · rintro ⟨i, hi, found⟩
      rcases Nat.le_succ_iff.1 hi with hi | rfl
      · exact .inr ⟨i, hi, found⟩
      · exact .inl (Option.some.inj (found.symm.trans reached))
  distinct m hm j hj same := by
    rcases Nat.le_succ_iff.1 hm with hm | rfl
    · exact h.distinct m hm j hj same
    · exact fresh ((h.mem_iff next).2 ⟨j, Nat.le_of_lt_succ hj, same.trans reached⟩)
  noRejection i hi e found := by
    rcases Nat.le_succ_iff.1 hi with hi | rfl
    · exact h.noRejection i hi e found
    · rw [← Option.some.inj (reached.symm.trans found)]
      exact hr

theorem closesAt (h : g.Met failure n met) (reached : g.chain failure (n + 1) = some next)
    (back : next ∈ met) : g.ClosesAt failure (n + 1) next where
  reached := reached
  back := by
    obtain ⟨j, hj, found⟩ := (h.mem_iff next).1 back
    exact ⟨j, Nat.lt_succ_of_le hj, found⟩
  first m hm := h.distinct m (Nat.le_of_lt_succ hm)

theorem firstRejection {r : Rejection} (h : g.Met failure n met)
    (reached : g.chain failure (n + 1) = some next) (hr : g.rejection next = some r) :
    g.FirstRejection failure (n + 1) next r where
  reached := reached
  isRejection := hr
  noneBefore i hi := h.noRejection i (Nat.le_of_lt_succ hi)

end Met

/-! ## What is so of the chain when a walk has stopped -/

section Stopped

variable {links : Nat}

theorem not_firstRejection_of_stopped {ending : Ending}
    (h : g.LeadsTo failure links (.stopped ending last)) :
    ¬∃ k ≤ links, ∃ e r, g.FirstRejection failure k e r := by
  rintro ⟨k, hk, e, r, first⟩
  cases ending with
  | terminal =>
    obtain ⟨n, -, ends, clean⟩ := h
    exact clean.not_firstRejection (first.le_of_endsAt ends) first
  | cycle =>
    obtain ⟨n, -, -, ⟨d, closes⟩, clean⟩ := h
    exact clean.not_firstRejection (Nat.le_of_lt_succ (first.lt_of_closesAt closes)) first
  | depthExceeded =>
    obtain ⟨-, -, -, clean⟩ := h
    exact clean.not_firstRejection hk first

private theorem stopped_terminal (h : g.LeadsTo failure links (.stopped .terminal last)) :
    g.EndsWithin failure links ∧ ¬g.ClosesWithin failure links ∧
      ∀ n e, g.EndsAt failure n e → last = e := by
  obtain ⟨n, hn, ends, -⟩ := h
  refine ⟨⟨n, hn, last, ends⟩, ?_, fun m e ends' => ends.error_eq ends'⟩
  rintro ⟨m, -, e, closes⟩
  exact closes.not_endsAt ends

private theorem stopped_cycle (h : g.LeadsTo failure links (.stopped .cycle last)) :
    ¬g.EndsWithin failure links ∧ g.ClosesWithin failure links ∧
      ∀ n e, g.ClosesAt failure n e → g.chain failure (n - 1) = some last := by
  obtain ⟨n, hn, reached, ⟨d, closes⟩, -⟩ := h
  refine ⟨?_, ⟨n + 1, hn, d, closes⟩, fun m e closes' => ?_⟩
  · rintro ⟨m, -, e, ends⟩
    exact closes.not_endsAt ends
  · rw [← closes.index_eq closes']
    exact reached

private theorem stopped_depthExceeded (h : g.LeadsTo failure links (.stopped .depthExceeded last)) :
    ¬g.EndsWithin failure links ∧ ¬g.ClosesWithin failure links ∧
      g.chain failure links = some last := by
  obtain ⟨reached, ⟨d, hc⟩, distinct, -⟩ := h
  refine ⟨?_, ?_, reached⟩
  · rintro ⟨n, hn, e, ends⟩
    have next : g.chain failure (links + 1) = some d := by
      rw [chain_succ, reached]
      exact hc
    rw [ends.chain_eq_none (Nat.lt_succ_of_le hn)] at next
    cases next
  · rintro ⟨n, hn, e, closes⟩
    exact distinct.not_closesAt hn closes

end Stopped

/-! ## The walk -/

variable [DecidableEq ν]

/-- By induction on the links that are left: the index of the last error grows as they shrink. -/
theorem follow_leadsTo (links : Nat) (h : g.Met failure n met)
    (reached : g.chain failure n = some last) :
    g.LeadsTo failure (n + links) (g.follow links met last) := by
  induction links generalizing n met last with
  | zero =>
    cases hc : g.cause last with
    | none =>
      rw [follow_of_no_cause hc]
      exact ⟨n, Nat.le_refl n, ⟨reached, hc⟩, h.noRejection⟩
    | some next =>
      rw [follow_zero hc]
      exact ⟨reached, ⟨next, hc⟩, h.distinct, h.noRejection⟩
  | succ links ih =>
    cases hc : g.cause last with
    | none =>
      rw [follow_of_no_cause hc]
      exact ⟨n, Nat.le_add_right n _, ⟨reached, hc⟩, h.noRejection⟩
    | some next =>
      have reachedNext : g.chain failure (n + 1) = some next := by
        rw [chain_succ, reached]
        exact hc
      by_cases back : next ∈ met
      · rw [follow_of_met hc back]
        exact ⟨n, by omega, reached, ⟨next, h.closesAt reachedNext back⟩, h.noRejection⟩
      · cases hr : g.rejection next with
        | some r =>
          rw [follow_of_rejection hc back hr]
          exact ⟨n + 1, by omega, h.firstRejection reachedNext hr⟩
        | none =>
          rw [follow_of_fresh hc back hr]
          have leads := ih (h.step reachedNext back hr) reachedNext
          rwa [Nat.add_right_comm, Nat.add_assoc] at leads

theorem walk_leadsTo (links : Nat) (failure : ν) :
    g.LeadsTo failure links (g.walk links failure) := by
  cases hr : g.rejection failure with
  | some r =>
    rw [walk_of_rejection hr]
    exact ⟨0, Nat.zero_le _, rfl, hr, by omega⟩
  | none =>
    rw [walk_of_plain hr]
    simpa using follow_leadsTo links (Met.start hr) rfl

variable (g)

theorem unwrap_eq_ok_iff_walk (entry : Entry) (links : Nat) (failure e : ν) (r : Rejection) :
    g.unwrap entry links failure = .ok (e, r) ↔ g.walk links failure = .found e r := by
  cases h : g.walk links failure with
  | found e' r' => simp [unwrap_of_found h]
  | stopped ending last => simp [unwrap_of_stopped h]

theorem unwrap_eq_error_iff_walk (entry : Entry) (links : Nat) (failure : ν) (d : Defect) :
    g.unwrap entry links failure = .error d ↔
      ∃ ending last, g.walk links failure = .stopped ending last ∧
        d = g.defect entry failure ending last := by
  cases h : g.walk links failure with
  | found e r => simp [unwrap_of_found h]
  | stopped ending last =>
    rw [unwrap_of_stopped h]
    constructor
    · intro same
      cases same
      exact ⟨ending, last, rfl, rfl⟩
    · rintro ⟨ending', last', same, rfl⟩
      cases same
      rfl

theorem walk_eq_found_iff (links : Nat) (failure e : ν) (r : Rejection) :
    g.walk links failure = .found e r ↔ ∃ k ≤ links, g.FirstRejection failure k e r := by
  have leads := g.walk_leadsTo links failure
  constructor
  · intro h
    rwa [h] at leads
  · rintro ⟨k, hk, first⟩
    cases h : g.walk links failure with
    | found e' r' =>
      rw [h] at leads
      obtain ⟨k', -, first'⟩ := leads
      obtain ⟨rfl, rfl⟩ := first'.eq first
      rfl
    | stopped ending last =>
      rw [h] at leads
      exact absurd ⟨k, hk, e, r, first⟩ (not_firstRejection_of_stopped leads)

theorem exists_unwrap_eq_ok_iff (entry : Entry) (links : Nat) (failure : ν) (r : Rejection) :
    (∃ e, g.unwrap entry links failure = .ok (e, r)) ↔ g.Carries failure links r := by
  constructor
  · rintro ⟨e, h⟩
    obtain ⟨k, hk, first⟩ :=
      (g.walk_eq_found_iff links failure e r).1
        ((g.unwrap_eq_ok_iff_walk entry links failure e r).1 h)
    exact first.carries hk
  · rintro ⟨k, hk, e, first⟩
    exact ⟨e, (g.unwrap_eq_ok_iff_walk entry links failure e r).2
      ((g.walk_eq_found_iff links failure e r).2 ⟨k, hk, first⟩)⟩

theorem exists_unwrap_eq_error_iff (entry : Entry) (links : Nat) (failure : ν) :
    (∃ d, g.unwrap entry links failure = .error d) ↔ ¬∃ r, g.Carries failure links r := by
  constructor
  · rintro ⟨d, h⟩ ⟨r, carries⟩
    obtain ⟨e, found⟩ := (g.exists_unwrap_eq_ok_iff entry links failure r).2 carries
    rw [h] at found
    cases found
  · intro none
    cases h : g.unwrap entry links failure with
    | error d => exact ⟨d, rfl⟩
    | ok found => exact absurd ⟨_, (g.exists_unwrap_eq_ok_iff entry links failure _).1 ⟨_, h⟩⟩ none

/-- A failure is unwrapped to the first rejection of its chain, if that stands within the links that
may be followed. If not, the defect tells how the walk stopped, and names the error at the end of
the chain, the one in front of the closing error, or the one that the last link led to. -/
theorem unwrap_outcome (entry : Entry) (links : Nat) (failure : ν) :
    (∀ e r, g.unwrap entry links failure = .ok (e, r) ↔
      ∃ k ≤ links, g.FirstRejection failure k e r) ∧
    ((¬∃ k ≤ links, ∃ e r, g.FirstRejection failure k e r) →
      ∃ d last, g.unwrap entry links failure = .error d ∧
        d.failure = g.display failure ∧
        (d.ending = .terminal ↔ g.EndsWithin failure links) ∧
        (d.ending = .cycle ↔ g.ClosesWithin failure links) ∧
        (d.ending = .depthExceeded ↔ ¬g.EndsWithin failure links ∧ ¬g.ClosesWithin failure links) ∧
        d.actualType = g.typeName entry failure last ∧
        (d.ending = .terminal → ∀ n e, g.EndsAt failure n e → last = e) ∧
        (d.ending = .cycle → ∀ n e, g.ClosesAt failure n e → g.chain failure (n - 1) = some last) ∧
        (d.ending = .depthExceeded → g.chain failure links = some last)) := by
  refine ⟨fun e r => ?_, fun none => ?_⟩
  · rw [unwrap_eq_ok_iff_walk, walk_eq_found_iff]
  · have leads := g.walk_leadsTo links failure
    cases h : g.walk links failure with
    | found e r =>
      obtain ⟨k, hk, first⟩ := (g.walk_eq_found_iff links failure e r).1 h
      exact absurd ⟨k, hk, e, r, first⟩ none
    | stopped ending last =>
      rw [h] at leads
      refine ⟨g.defect entry failure ending last, last,
        (g.unwrap_eq_error_iff_walk entry links failure _).2 ⟨ending, last, h, rfl⟩, rfl, ?_⟩
      cases ending with
      | terminal =>
        obtain ⟨ends, open_, names⟩ := stopped_terminal leads
        simpa [defect, ends, open_] using names
      | cycle =>
        obtain ⟨goesOn, closes, names⟩ := stopped_cycle leads
        simpa [defect, goesOn, closes] using names
      | depthExceeded =>
        obtain ⟨goesOn, open_, names⟩ := stopped_depthExceeded leads
        simpa [defect, goesOn, open_] using names

end EventLineage.CauseGraph
