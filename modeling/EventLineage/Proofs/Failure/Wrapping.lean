import EventLineage.Proofs.Failure.Walk

/-! # Wrapped failures

A layer around a failure is an error that is no rejection and has the failure as its cause. A layer
that does not stand on the chain of the failure itself changes nothing but the text: with one link
more, a walk from it leads to where a walk from the failure does. -/
namespace EventLineage.CauseGraph

variable {ν : Type} (g : CauseGraph ν)

/-- So many layers stand around a failure, one around the other, and none of them on its chain. -/
inductive Wraps (failure : ν) : Nat → ν → Prop
  | bare : Wraps failure 0 failure
  | layer {n : Nat} {outer inner : ν} (cause : g.cause outer = some inner)
    (plain : g.rejection outer = none) (fresh : ∀ i, g.chain failure i ≠ some outer)
    (wraps : Wraps failure n inner) : Wraps failure (n + 1) outer

variable {g} {failure wrapped outer inner last : ν} {n links : Nat}

theorem Wraps.chain_eq (h : g.Wraps failure n wrapped) : g.chain wrapped n = some failure := by
  induction h with
  | bare => rfl
  | layer cause plain fresh wraps ih => rwa [chain_succ_of_cause cause]

/-- A layer does not stand on the chain of the layers inside it: they would lead back to it for
ever, and so would the failure. -/
theorem Wraps.fresh_inside (h : g.Wraps failure n inner) (cause : g.cause outer = some inner)
    (fresh : ∀ i, g.chain failure i ≠ some outer) (i : Nat) : g.chain inner i ≠ some outer := by
  intro back
  have loop : g.chain outer (i + 1) = some outer := by rwa [chain_succ_of_cause cause]
  have reached : g.chain outer (n + 1) = some failure := by
    rw [chain_succ_of_cause cause, h.chain_eq]
  obtain ⟨k, hk⟩ := exists_chain_of_loop loop reached
  exact fresh k hk

/-! ## Walks -/

variable [DecidableEq ν]

/-- Errors that a walk does not come to may have been met before it or not. -/
theorem follow_append {met others : List ν} (fresh : ∀ e ∈ others, ∀ i, g.chain last i ≠ some e) :
    g.follow links (met ++ others) last = g.follow links met last := by
  induction links generalizing met last with
  | zero =>
    cases hc : g.cause last with
    | none => rw [follow_of_no_cause hc, follow_of_no_cause hc]
    | some next => rw [follow_zero hc, follow_zero hc]
  | succ links ih =>
    cases hc : g.cause last with
    | none => rw [follow_of_no_cause hc, follow_of_no_cause hc]
    | some next =>
      have mem_iff : next ∈ met ++ others ↔ next ∈ met := by
        rw [List.mem_append, or_iff_left]
        exact fun mem => fresh next mem 1 hc
      by_cases back : next ∈ met
      · rw [follow_of_met hc back, follow_of_met hc (mem_iff.2 back)]
      · have back' : next ∉ met ++ others := fun mem => back (mem_iff.1 mem)
        cases hr : g.rejection next with
        | some r => rw [follow_of_rejection hc back hr, follow_of_rejection hc back' hr]
        | none =>
          rw [follow_of_fresh hc back hr, follow_of_fresh hc back' hr, ← List.cons_append]
          apply ih
          intro e he i
          rw [← chain_succ_of_cause hc]
          exact fresh e he (i + 1)

theorem walk_of_layer (cause : g.cause outer = some inner) (plain : g.rejection outer = none)
    (fresh : ∀ i, g.chain inner i ≠ some outer) :
    g.walk (links + 1) outer = g.walk links inner := by
  have ne : inner ∉ [outer] := by
    intro mem
    exact fresh 0 (congrArg some (List.mem_singleton.1 mem))
  cases hr : g.rejection inner with
  | some r => rw [walk_of_plain plain, walk_of_rejection hr, follow_of_rejection cause ne hr]
  | none =>
    rw [walk_of_plain plain, walk_of_plain hr, follow_of_fresh cause ne hr]
    have split : [inner, outer] = [inner] ++ [outer] := rfl
    rw [split]
    apply follow_append
    intro e he
    rw [List.mem_singleton.1 he]
    exact fresh

theorem Wraps.walk_eq (h : g.Wraps failure n wrapped) :
    g.walk (n + links) wrapped = g.walk links failure := by
  induction h with
  | bare => rw [Nat.zero_add]
  | layer cause plain fresh wraps ih =>
    rw [Nat.add_right_comm, walk_of_layer cause plain (wraps.fresh_inside cause fresh), ih]

/-- A walk along fewer links than there are layers comes to the layer with their number. -/
theorem Wraps.walk_of_lt (h : g.Wraps failure n wrapped) (lt : links < n) :
    ∃ layer, g.chain wrapped links = some layer ∧
      g.walk links wrapped = .stopped .depthExceeded layer := by
  induction h generalizing links with
  | bare => exact absurd lt (Nat.not_lt_zero links)
  | @layer n outer inner cause plain fresh wraps ih =>
    cases links with
    | zero =>
      refine ⟨outer, rfl, ?_⟩
      rw [walk_of_plain plain, follow_zero cause]
    | succ links =>
      obtain ⟨layer, reached, stops⟩ := ih (Nat.lt_of_succ_lt_succ lt)
      refine ⟨layer, ?_, ?_⟩
      · rwa [chain_succ_of_cause cause]
      · rwa [walk_of_layer cause plain (wraps.fresh_inside cause fresh)]

/-! ## What is unwrapped -/

variable (g) in
/-- The type of an error does not depend on the failure when that came without a type. -/
theorem typeName_erased_congr (failure failure' e : ν) :
    g.typeName .erased failure e = g.typeName .erased failure' e := by
  cases known : g.familiar e with
  | some familiar => rw [typeName_of_familiar known, typeName_of_familiar known]
  | none => rw [typeName_erased known, typeName_erased known]

/-- Failures of unknown type whose walks lead to the same place differ in their texts alone. -/
theorem unwrap_of_walk_eq {more : Nat} (h : g.walk more wrapped = g.walk links failure) :
    g.unwrap .erased more wrapped =
      (g.unwrap .erased links failure).mapError fun d =>
        { d with failure := g.display wrapped } := by
  cases hw : g.walk links failure with
  | found e r =>
    rw [unwrap_of_found (h.trans hw), unwrap_of_found hw]
    rfl
  | stopped ending last =>
    have name := g.typeName_erased_congr wrapped failure last
    rw [unwrap_of_stopped (h.trans hw), unwrap_of_stopped hw, defect, name]
    rfl

/-- Whatever a failure is, a rejection or a defect, on a chain that ends or on one that does not,
layers around it change nothing but the text of the failure, if as many links more may be followed
as there are layers. With fewer links the walk ends among the layers. -/
theorem unwrap_wrapped (h : g.Wraps failure n wrapped) :
    (∀ links, g.unwrap .erased (n + links) wrapped =
      (g.unwrap .erased links failure).mapError fun d => { d with failure := g.display wrapped }) ∧
    ∀ links < n, ∃ layer, g.chain wrapped links = some layer ∧ g.unwrap .erased links wrapped =
      .error ⟨g.display wrapped, g.typeName .erased wrapped layer, .depthExceeded⟩ := by
  refine ⟨fun links => unwrap_of_walk_eq h.walk_eq, fun links lt => ?_⟩
  obtain ⟨layer, reached, stops⟩ := h.walk_of_lt lt
  refine ⟨layer, reached, ?_⟩
  exact unwrap_of_stopped stops

/-! Two attempts are each other's cause, and later attempts failed because of the one before. -/

namespace Attempts

def errors : CauseGraph Nat where
  cause
    | 0 => some 1
    | n + 1 => some n
  display n := s!"attempt {n} failed"
  debug n := if n ≤ 1 then "Attempt" else "Retry"
  familiar _ := none
  rejection _ := none

private theorem chain_errors_le {e d : Nat} (small : e ≤ 1) (n : Nat)
    (h : errors.chain e n = some d) : d ≤ 1 := by
  induction n generalizing e with
  | zero =>
    cases h
    exact small
  | succ n ih =>
    cases e with
    | zero =>
      have cause : errors.cause 0 = some 1 := rfl
      rw [chain_succ_of_cause cause] at h
      exact ih (Nat.le_refl 1) h
    | succ e =>
      have cause : errors.cause (e + 1) = some e := rfl
      rw [chain_succ_of_cause cause] at h
      exact ih (by omega) h

theorem wraps_errors (n : Nat) : errors.Wraps 1 n (n + 1) := by
  induction n with
  | zero => exact .bare
  | succ n ih =>
    refine .layer rfl rfl (fun i reached => ?_) ih
    have small := chain_errors_le (Nat.le_refl 1) i reached
    omega

end Attempts

open Attempts in
theorem unwrap_wrapped_attempts : errors.Wraps 1 3 4 ∧
    errors.unwrap .erased 2 1 = .error ⟨"attempt 1 failed", "Attempt", .cycle⟩ ∧
    errors.unwrap .erased (3 + 2) 4 = .error ⟨"attempt 4 failed", "Attempt", .cycle⟩ ∧
    errors.unwrap .erased 2 4 = .error ⟨"attempt 4 failed", "Retry", .depthExceeded⟩ := by
  obtain ⟨deep, short⟩ := unwrap_wrapped (wraps_errors 3)
  have bare : errors.unwrap .erased 2 1 = .error ⟨"attempt 1 failed", "Attempt", .cycle⟩ := rfl
  obtain ⟨layer, reached, stops⟩ := short 2 (by decide)
  cases reached
  refine ⟨wraps_errors 3, bare, ?_, stops⟩
  rw [deep 2, bare]
  rfl

end EventLineage.CauseGraph
