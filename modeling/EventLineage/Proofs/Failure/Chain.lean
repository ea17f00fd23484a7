import EventLineage.Failure.Graph

/-! # Chains of causes: where they end, close, and first hold a rejection

A chain ends at an error without a cause, closes at the first error that stands in it before, or
does neither. An error behind the end is nowhere, and an error behind the closing one stands in
front of it too, so nothing new is met from there on. -/
namespace EventLineage.CauseGraph

variable {ν : Type} (g : CauseGraph ν) {failure : ν}

/-- The error with an index is a rejection, and none in front of it is one. -/
structure FirstRejection (failure : ν) (index : Nat) (e : ν) (r : Rejection) : Prop where
  reached : g.chain failure index = some e
  isRejection : g.rejection e = some r
  noneBefore : ∀ i < index, ∀ d, g.chain failure i = some d → g.rejection d = none

structure EndsAt (failure : ν) (index : Nat) (e : ν) : Prop where
  reached : g.chain failure index = some e
  noCause : g.cause e = none

/-- The error with an index stands at an earlier index too, and no error in front of it does. -/
structure ClosesAt (failure : ν) (index : Nat) (e : ν) : Prop where
  reached : g.chain failure index = some e
  back : ∃ j < index, g.chain failure j = some e
  first : ∀ m < index, ∀ j < m, g.chain failure j ≠ g.chain failure m

/-- No error stands at two of the indices up to this one. -/
def DistinctUpTo (failure : ν) (index : Nat) : Prop :=
  ∀ m ≤ index, ∀ j < m, g.chain failure j ≠ g.chain failure m

/-- No error with an index up to this one is a rejection. -/
def NoRejectionUpTo (failure : ν) (index : Nat) : Prop :=
  ∀ i ≤ index, ∀ e, g.chain failure i = some e → g.rejection e = none

/-- The chain ends within so many links. -/
def EndsWithin (failure : ν) (links : Nat) : Prop := ∃ n ≤ links, ∃ e, g.EndsAt failure n e

/-- The chain closes within so many links. -/
def ClosesWithin (failure : ν) (links : Nat) : Prop := ∃ n ≤ links, ∃ e, g.ClosesAt failure n e

/-- The first rejection of the chain stands within so many links. -/
def Carries (failure : ν) (links : Nat) (r : Rejection) : Prop :=
  ∃ k ≤ links, ∃ e, g.FirstRejection failure k e r

variable {g}

theorem chain_add (e : ν) (m n : Nat) :
    g.chain e (m + n) = g.chain e m >>= fun d => g.chain d n := by
  induction n with
  | zero => cases g.chain e m <;> simp
  | succ n ih =>
    rw [← Nat.add_assoc, chain_succ, ih]
    cases h : g.chain e m with
    | none => rfl
    | some d => rfl

theorem chain_add_congr {e : ν} {i j : Nat} (h : g.chain e i = g.chain e j) (n : Nat) :
    g.chain e (i + n) = g.chain e (j + n) := by
  rw [chain_add, chain_add, h]

/-- The chain of an error is that of its cause, behind the error itself. -/
theorem chain_succ_eq_cause_bind (e : ν) (n : Nat) :
    g.chain e (n + 1) = g.cause e >>= fun d => g.chain d n := by
  rw [Nat.add_comm, chain_add]
  rfl

theorem chain_succ_of_cause {e d : ν} (h : g.cause e = some d) (n : Nat) :
    g.chain e (n + 1) = g.chain d n := by
  rw [chain_succ_eq_cause_bind, h]
  rfl

theorem getElem?_upTo (n i : Nat) (e : Option ν) :
    (g.upTo n e)[i]? = if i < n then e >>= fun d => g.chain d i else none := by
  induction n generalizing i e with
  | zero => simp [upTo]
  | succ n ih =>
    cases e with
    | none => simp
    | some e =>
      rw [upTo_succ_some]
      cases i with
      | zero => simp
      | succ i =>
        rw [List.getElem?_cons_succ, ih, ← chain_succ_eq_cause_bind]
        simp only [Nat.add_lt_add_iff_right]
        rfl

/-- Whatever lies behind an error that stands on its own chain has that error behind it. -/
theorem exists_chain_of_loop {e d : ν} {i n : Nat} (loop : g.chain e (i + 1) = some e)
    (reached : g.chain e n = some d) : ∃ k, g.chain d k = some e := by
  have around (m : Nat) : g.chain e (m * (i + 1)) = some e := by
    induction m with
    | zero => rw [Nat.zero_mul, chain_zero]
    | succ m ih =>
      rw [Nat.succ_mul, chain_add, ih]
      exact loop
  refine ⟨n * i, ?_⟩
  have behind : g.chain e (n + n * i) = g.chain d (n * i) := by
    rw [chain_add, reached]
    rfl
  rw [← behind, ← around n, Nat.mul_succ, Nat.add_comm n]

theorem exists_chain_of_le {e d : ν} {m n : Nat} (h : g.chain e n = some d) (le : m ≤ n) :
    ∃ c, g.chain e m = some c := by
  cases hm : g.chain e m with
  | some c => exact ⟨c, rfl⟩
  | none =>
    have none : g.chain e (m + (n - m)) = none := by rw [chain_add, hm]; rfl
    rw [Nat.add_sub_cancel' le, h] at none
    cases none

/-! ## Ends -/

namespace EndsAt

variable {n m : Nat} {e d : ν}

theorem chain_eq_none (h : g.EndsAt failure n e) (lt : n < m) : g.chain failure m = none := by
  have next : g.chain failure (n + 1) = none := by
    rw [chain_succ, h.reached]
    exact h.noCause
  have split : m = n + 1 + (m - (n + 1)) := by omega
  rw [split, chain_add, next]
  rfl

theorem index_eq (h : g.EndsAt failure n e) (h' : g.EndsAt failure m d) : n = m := by
  rcases Nat.lt_trichotomy n m with lt | same | lt
  · have none := h.chain_eq_none lt
    rw [h'.reached] at none
    cases none
  · exact same
  · have none := h'.chain_eq_none lt
    rw [h.reached] at none
    cases none

theorem error_eq (h : g.EndsAt failure n e) (h' : g.EndsAt failure m d) : e = d := by
  have reached := h'.reached
  rw [← h.index_eq h', h.reached] at reached
  exact Option.some.inj reached

/-- An error that stood at two indices in front of the end would lead on behind it. -/
theorem distinctUpTo (h : g.EndsAt failure n e) : g.DistinctUpTo failure n := by
  intro m hm j hj same
  have congr := chain_add_congr same (n + 1 - m)
  rw [Nat.add_sub_cancel' (Nat.le_succ_of_le hm), h.chain_eq_none (Nat.lt_succ_self n)] at congr
  obtain ⟨c, hc⟩ := exists_chain_of_le h.reached (show j + (n + 1 - m) ≤ n by omega)
  rw [congr] at hc
  cases hc

end EndsAt

/-! ## Closing links -/

namespace ClosesAt

variable {n m : Nat} {e d : ν}

/-- Whatever stands in a chain that closes stands in front of the closing error. -/
theorem exists_lt (h : g.ClosesAt failure n e) (i : Nat) :
    ∃ j < n, g.chain failure j = g.chain failure i := by
  induction i using Nat.strongRecOn with
  | ind i ih =>
    by_cases lt : i < n
    · exact ⟨i, lt, rfl⟩
    · obtain ⟨j, hj, back⟩ := h.back
      have same : g.chain failure (j + (i - n)) = g.chain failure i := by
        have congr := chain_add_congr (back.trans h.reached.symm) (i - n)
        rwa [Nat.add_sub_cancel' (Nat.le_of_not_lt lt)] at congr
      obtain ⟨k, hk, found⟩ := ih (j + (i - n)) (by omega)
      exact ⟨k, hk, found.trans same⟩

/-- A chain that closes goes on for ever. -/
theorem exists_chain (h : g.ClosesAt failure n e) (i : Nat) : ∃ c, g.chain failure i = some c := by
  obtain ⟨j, hj, same⟩ := h.exists_lt i
  rw [← same]
  exact exists_chain_of_le h.reached (Nat.le_of_lt hj)

theorem not_endsAt (h : g.ClosesAt failure n e) : ¬g.EndsAt failure m d := by
  intro ends
  obtain ⟨c, hc⟩ := h.exists_chain (m + 1)
  rw [ends.chain_eq_none (Nat.lt_succ_self m)] at hc
  cases hc

theorem index_eq (h : g.ClosesAt failure n e) (h' : g.ClosesAt failure m d) : n = m := by
  rcases Nat.lt_trichotomy n m with lt | same | lt
  · obtain ⟨j, hj, back⟩ := h.back
    exact absurd (back.trans h.reached.symm) (h'.first n lt j hj)
  · exact same
  · obtain ⟨j, hj, back⟩ := h'.back
    exact absurd (back.trans h'.reached.symm) (h.first m lt j hj)

end ClosesAt

theorem DistinctUpTo.not_closesAt {n m : Nat} {e : ν} (h : g.DistinctUpTo failure n) (le : m ≤ n) :
    ¬g.ClosesAt failure m e := by
  intro closes
  obtain ⟨j, hj, back⟩ := closes.back
  exact h m le j hj (back.trans closes.reached.symm)

/-! ## First rejections -/

theorem NoRejectionUpTo.not_firstRejection {n k : Nat} {e : ν} {r : Rejection}
    (h : g.NoRejectionUpTo failure n) (le : k ≤ n) : ¬g.FirstRejection failure k e r := by
  intro first
  have none := h k le e first.reached
  rw [first.isRejection] at none
  cases none

namespace FirstRejection

variable {k m n : Nat} {e d : ν} {r q : Rejection}

theorem index_eq (h : g.FirstRejection failure k e r) (h' : g.FirstRejection failure m d q) :
    k = m := by
  rcases Nat.lt_trichotomy k m with lt | same | lt
  · have none := h'.noneBefore k lt e h.reached
    rw [h.isRejection] at none
    cases none
  · exact same
  · have none := h.noneBefore m lt d h'.reached
    rw [h'.isRejection] at none
    cases none

theorem eq (h : g.FirstRejection failure k e r) (h' : g.FirstRejection failure m d q) :
    e = d ∧ r = q := by
  have reached := h'.reached
  rw [← h.index_eq h', h.reached] at reached
  cases reached
  have same := h'.isRejection
  rw [h.isRejection] at same
  exact ⟨rfl, Option.some.inj same⟩

theorem carries (h : g.FirstRejection failure k e r) (le : k ≤ n) : g.Carries failure n r :=
  ⟨k, le, e, h⟩

/-- A rejection on a chain that ends does not stand behind the end. -/
theorem le_of_endsAt (h : g.FirstRejection failure k e r)
    (ends : g.EndsAt failure n d) : k ≤ n := by
  refine Nat.le_of_not_lt fun gt => ?_
  have none := ends.chain_eq_none gt
  rw [h.reached] at none
  cases none

/-- The first rejection on a chain that closes stands in front of the closing error. -/
theorem lt_of_closesAt (h : g.FirstRejection failure k e r) (closes : g.ClosesAt failure n d) :
    k < n := by
  obtain ⟨j, hj, same⟩ := closes.exists_lt k
  refine Nat.lt_of_not_le fun ge => ?_
  have none := h.noneBefore j (by omega) e (same.trans h.reached)
  rw [h.isRejection] at none
  cases none

end FirstRejection
end EventLineage.CauseGraph
