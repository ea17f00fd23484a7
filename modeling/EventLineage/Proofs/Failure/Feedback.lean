import EventLineage.Failure.Wrapping
import EventLineage.Proofs.Failure.Wrapping
import EventLineage.Proofs.Storage.Events

/-! # Errors of a refusal that are refused again

A defect has no cause. So an error that tells of one, in whatever it is wrapped, carries no
rejection: it is a defect again, and nothing is asked of the collaborators. An error of a
collaborator is the cause of the error of the refusal, and a walk passes through to it. -/
namespace EventLineage

/-! ## Chains without a rejection -/

namespace CauseGraph

variable {ν : Type} (g : CauseGraph ν)

/-- No error on the chain is a rejection. -/
def Plain (e : ν) : Prop := ∀ i c, g.chain e i = some c → g.rejection c = none

variable {g} {e c : ν} {links : Nat}

private theorem plain_of_cause (here : g.rejection e = none)
    (behind : ∀ c, g.cause e = some c → g.Plain c) :
    g.Plain e := by
  intro i c reached
  cases i with
  | zero =>
    cases reached
    exact here
  | succ i =>
    cases cause : g.cause e with
    | none =>
      rw [chain_succ_eq_cause_bind, cause] at reached
      cases reached
    | some next =>
      rw [chain_succ_of_cause cause] at reached
      exact behind next cause i c reached

private theorem plain_of_no_cause (here : g.rejection e = none)
    (last : g.cause e = none) : g.Plain e := by
  refine plain_of_cause here fun c cause => ?_
  rw [last] at cause
  cases cause

theorem Plain.behind (h : g.Plain e) (cause : g.cause e = some c) : g.Plain c := by
  intro i b reached
  rw [← chain_succ_of_cause cause] at reached
  exact h (i + 1) b reached

theorem Plain.not_carries (h : g.Plain e) : ¬∃ r, g.Carries e links r := by
  rintro ⟨r, k, -, c, first⟩
  have none := h k c first.reached
  rw [first.isRejection] at none
  cases none

end CauseGraph

/-! ## What tells of a defect -/

namespace ErrorStore

/-- An error tells of a defect: it is the defect, or the error of a refusal that came of it, or it
stands around an error that tells of the defect, which it either has as its cause or hides. -/
inductive Tells (s : ErrorStore) (d : Defect) : Nat → Prop
  | defect {e : Nat} (node : s.node e = .ofDefect d) : Tells s d e
  | refusal {e : Nat} (g : CauseGraph Nat) (node : s.node e = .ofRefusalError g (.defect d)) :
      Tells s d e
  | layer {e inner : Nat} (plain : (s.node e).rejection = none)
      (cause : (s.node e).cause = some inner) (tells : Tells s d inner) : Tells s d e
  | hidden {e inner : Nat} (stored : e < s.next) (plain : (s.node e).rejection = none)
    (cause : (s.node e).cause = (s.node inner).cause) (tells : Tells s d inner) : Tells s d e

namespace Tells

variable {s : ErrorStore} {d : Defect} {e : Nat}

private theorem lt_next (h : s.Tells d e) : e < s.next := by
  refine Nat.lt_of_not_le fun outside => ?_
  have nothing := node_of_le outside
  cases h with
  | defect node =>
    have type : none = some Familiar.defect := congrArg ErrorNode.familiar (nothing.symm.trans node)
    cases type
  | refusal g node =>
    have type : none = some _ := congrArg ErrorNode.typeName (nothing.symm.trans node)
    cases type
  | layer plain cause tells =>
    rw [nothing] at cause
    cases cause
  | hidden stored plain cause tells => exact absurd stored (Nat.not_lt.2 outside)

theorem plain (h : s.Tells d e) : s.graph.Plain e := by
  induction h with
  | defect node =>
    exact CauseGraph.plain_of_no_cause (congrArg ErrorNode.rejection node)
      (congrArg ErrorNode.cause node)
  | refusal g node =>
    exact CauseGraph.plain_of_no_cause (congrArg ErrorNode.rejection node)
      (congrArg ErrorNode.cause node)
  | layer plain cause tells ih =>
    refine CauseGraph.plain_of_cause plain fun c found => ?_
    cases cause.symm.trans found
    exact ih
  | hidden stored plain cause tells ih =>
    exact CauseGraph.plain_of_cause plain fun c found => ih.behind (cause.symm.trans found)

/-- Further errors change nothing about those in store. -/
theorem add (h : s.Tells d e) (n : ErrorNode) : (s.add n).2.Tells d e := by
  have keeps {e : Nat} (h : s.Tells d e) : (s.add n).2.node e = s.node e :=
    node_add_of_lt n h.lt_next
  induction h with
  | defect node => exact .defect ((keeps (.defect node)).trans node)
  | refusal g node => exact .refusal g ((keeps (.refusal g node)).trans node)
  | layer plain cause tells ih =>
    have same := keeps (.layer plain cause tells)
    exact .layer (by rwa [same]) (by rwa [same]) ih
  | hidden stored plain cause tells ih =>
    have same := keeps (.hidden stored plain cause tells)
    have more : s.next < (s.add n).2.next := by simp [ErrorStore.add, next]
    exact .hidden (Nat.lt_trans stored more) (by rwa [same]) (by rwa [same, keeps tells]) ih

private theorem add_layer (h : s.Tells d e) {n : ErrorNode} (plain : n.rejection = none)
    (cause : n.cause = some e) :
    (s.add n).2.Tells d (s.add n).1 := by
  have node : (s.add n).2.node (s.add n).1 = n := node_add_next s n
  exact .layer (by rwa [node]) (by rwa [node]) (h.add n)

theorem inContexts (h : s.Tells d e) (texts : List String) :
    (ErrorNode.inContexts s e texts).2.Tells d (ErrorNode.inContexts s e texts).1 := by
  induction texts generalizing s e with
  | nil => exact h
  | cons text texts ih => exact ih (h.add_layer (n := .context text e) rfl rfl)

end Tells

/-- The error of an assembly has the collaborator's error as its cause, and so has the error of a
refusal that hides it. -/
theorem unwrap_of_assembly {s : ErrorStore} {g : CauseGraph Nat} {a : AssemblyError Nat}
    {e links : Nat}
    (node : s.node e = .ofAssemblyError g a ∨ s.node e = .ofRefusalError g (.assembly a))
    (fresh : ∀ i, s.graph.chain a.cause i ≠ some e) :
    s.graph.unwrap .erased (links + 1) e =
      (s.graph.unwrap .erased links a.cause).mapError fun d => { d with failure := a.text g } := by
  have parts : s.graph.cause e = some a.cause ∧ s.graph.rejection e = none ∧
      s.graph.display e = a.text g := by
    rcases node with node | node
    · exact ⟨congrArg ErrorNode.cause node, congrArg ErrorNode.rejection node,
        congrArg ErrorNode.display node⟩
    · exact ⟨congrArg ErrorNode.cause node, congrArg ErrorNode.rejection node,
        congrArg ErrorNode.display node⟩
  obtain ⟨cause, plain, display⟩ := parts
  rw [← display]
  exact CauseGraph.unwrap_of_walk_eq (CauseGraph.walk_of_layer cause plain fresh)

/-- Whatever tells of a defect is a defect again, however many links may be followed, and its
refusal asks the collaborators for nothing. Putting texts in front of it does not change that. The
error of an assembly leads to where the collaborator's error does, with one link more. -/
theorem refused_again (s : ErrorStore) :
    (∀ d e, s.Tells d e →
      (∀ entry links, ∃ d', s.graph.unwrap entry links e = .error d') ∧
      (∀ (σ : Type) (f : Refuser σ Nat) (command : Command) (entry : Entry) (state : σ),
        ∃ d', f.Asks s.graph command entry e state (.error (.defect d')) state []) ∧
      ∀ texts, (ErrorNode.inContexts s e texts).2.Tells d (ErrorNode.inContexts s e texts).1) ∧
    ∀ (g : CauseGraph Nat) (a : AssemblyError Nat) (e : Nat),
      (s.node e = .ofAssemblyError g a ∨ s.node e = .ofRefusalError g (.assembly a)) →
      (∀ i, s.graph.chain a.cause i ≠ some e) →
      ∀ links, s.graph.unwrap .erased (links + 1) e =
        (s.graph.unwrap .erased links a.cause).mapError fun d =>
          { d with failure := a.text g } := by
  refine ⟨fun d e tells => ?_, fun g a e node fresh links => unwrap_of_assembly node fresh⟩
  have fails (entry : Entry) (links : Nat) : ∃ d', s.graph.unwrap entry links e = .error d' :=
    (s.graph.exists_unwrap_eq_error_iff entry links e).2 tells.plain.not_carries
  refine ⟨fails, fun σ f command entry state => ?_, tells.inContexts⟩
  obtain ⟨d', hd'⟩ := fails entry f.settings.maxCauseDepth.toNat
  exact ⟨d', Refuser.asks_of_defect hd'⟩

end ErrorStore

/-! A withdrawal was refused, but too many texts stood in front of the rejection. The defect that
came of it is refused in its turn; so is an error of the clock, which had the first failure as its
cause. -/

namespace Withdrawal

def tooDeep : Defect := ⟨"withdrawal failed", "Error", .depthExceeded⟩

def attempts : ErrorStore where
  nodes := #[
    .ofRejection ErrorStore.empty.graph
      ⟨"bank::Overdrawn", "overdrawn", none, ⟨"bank.Overdrawn", .ofJson .null⟩, none⟩,
    .context "no booking" 0,
    .context "withdrawal failed" 1,
    .ofDefect tooDeep,
    .context "tried again" 3,
    .ofRefusalError ErrorStore.empty.graph (.assembly (.clock 2))]

def countingRefuser : Refuser UInt64 Nat := ⟨⟨Supply.counted, .constant noon⟩, .standard⟩

theorem carries_attempts : ∃ r, attempts.graph.Carries 2 2 r :=
  ⟨_, (attempts.graph.exists_unwrap_eq_ok_iff .erased 2 2 _).1 ⟨0, rfl⟩⟩

theorem unwrap_attempts : attempts.graph.unwrap .erased 1 2 = .error tooDeep := by
  have stops : attempts.graph.walk 1 2 = .stopped .depthExceeded 1 := rfl
  have defect : attempts.graph.defect .erased 2 .depthExceeded 1 = tooDeep := by decide +kernel
  rw [CauseGraph.unwrap_of_stopped stops, defect]

theorem tells_attempts : attempts.Tells tooDeep 4 := by
  have defect : attempts.Tells tooDeep 3 := .defect rfl
  exact .layer rfl rfl defect

theorem fresh_attempts (i : Nat) : attempts.graph.chain 2 i ≠ some 5 := by
  have ends : attempts.graph.EndsAt 2 2 0 := ⟨rfl, rfl⟩
  by_cases behind : 2 < i
  · rw [ends.chain_eq_none behind]
    nofun
  · have cases : i = 0 ∨ i = 1 ∨ i = 2 := by omega
    rcases cases with rfl | rfl | rfl <;> decide

end Withdrawal

open Withdrawal in
theorem ErrorStore.refused_again_withdrawal :
    (∃ r, attempts.graph.Carries 2 2 r) ∧ attempts.graph.unwrap .erased 1 2 = .error tooDeep ∧
    (∃ d, (countingRefuser.refuse attempts.graph command .erased 4 5).result = .error (.defect d)) ∧
    (countingRefuser.refuse attempts.graph command .erased 4 5).state = 5 ∧
    ∃ found, attempts.graph.unwrap .erased 3 5 = .ok found := by
  obtain ⟨again, passes⟩ := refused_again attempts
  obtain ⟨-, refuses, -⟩ := again tooDeep 4 tells_attempts
  obtain ⟨d, result, state, -⟩ := refuses UInt64 countingRefuser command .erased 5
  refine ⟨carries_attempts, unwrap_attempts, ⟨d, result⟩, state, ?_⟩
  rw [passes ErrorStore.empty.graph (.clock 2) 5 (.inr rfl) fresh_attempts 2]
  exact ⟨_, rfl⟩

end EventLineage
