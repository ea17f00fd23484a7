import EventLineage.Failure.Wrapping
import EventLineage.Proofs.Failure.Chain
import EventLineage.Proofs.Refusal
import EventLineage.Supply

/-! # Errors of collaborators are passed on as they are

The error of a refusal that failed for a collaborator puts a few words in front of the text of the
collaborator's error, and has that error as its cause. Two errors stand around it, that of the
assembly and that of the refusal, but the outer one hides the inner one; so the texts behind it are
those of the collaborator's error and of its causes, each of them once. -/
namespace EventLineage

/-! ## Texts along a chain -/

namespace CauseGraph

variable {ν : Type} (g : CauseGraph ν)

/-- The text of the error that is so many links behind another one. -/
def textAt (e : ν) (i : Nat) : Option String := (g.chain e i).map g.display

variable {g} {g' : CauseGraph ν} {e c : ν} {i : Nat}

@[simp] theorem textAt_zero (e : ν) : g.textAt e 0 = some (g.display e) := rfl

private theorem textAt_succ_of_cause (h : g.cause e = some c) (i : Nat) :
    g.textAt e (i + 1) = g.textAt c i := by
  simp only [textAt, chain_succ_of_cause h]

private theorem textAt_succ_of_no_cause (h : g.cause e = none) (i : Nat) :
    g.textAt e (i + 1) = none := by
  rw [textAt, chain_succ_eq_cause_bind, h]
  rfl

private theorem getElem?_upTo_display (limit i : Nat) (e : ν) :
    ((g.upTo limit (some e)).map g.display)[i]? = if i < limit then g.textAt e i else none := by
  rw [List.getElem?_map, getElem?_upTo]
  split <;> rfl

/-- Two graphs that agree on some errors, whose causes are among them, have the same texts behind
these. -/
theorem textAt_congr {P : ν → Prop} (closed : ∀ e c, P e → g.cause e = some c → P c)
    (cause : ∀ e, P e → g'.cause e = g.cause e) (display : ∀ e, P e → g'.display e = g.display e)
    (h : P e) (i : Nat) : g'.textAt e i = g.textAt e i := by
  induction i generalizing e with
  | zero => rw [textAt_zero, textAt_zero, display e h]
  | succ i ih =>
    cases hc : g.cause e with
    | none => rw [textAt_succ_of_no_cause hc, textAt_succ_of_no_cause ((cause e h).trans hc)]
    | some c =>
      rw [textAt_succ_of_cause hc, textAt_succ_of_cause ((cause e h).trans hc)]
      exact ih (closed e c h hc)

end CauseGraph

/-! ## Stores in which no cause is missing -/

namespace ErrorStore

/-- The causes of the errors in the store are in the store. -/
def Closed (s : ErrorStore) : Prop := ∀ e c, (s.node e).cause = some c → c < s.next

variable {s : ErrorStore} {e : Nat}

@[simp] theorem next_add (s : ErrorStore) (n : ErrorNode) : (s.add n).2.next = s.next + 1 := by
  simp [add, next]

theorem Closed.add (closed : s.Closed) {n : ErrorNode}
    (known : ∀ c, n.cause = some c → c < s.next) :
    (s.add n).2.Closed := by
  intro e c cause
  rw [next_add]
  rcases Nat.lt_trichotomy e s.next with old | rfl | outside
  · rw [node_add_of_lt n old] at cause
    exact Nat.lt_succ_of_lt (closed e c cause)
  · rw [node_add_next] at cause
    exact Nat.lt_succ_of_lt (known c cause)
  · rw [node_of_le (by rw [next_add]; exact outside)] at cause
    cases cause

/-- Further errors change nothing about the texts behind those in store. -/
theorem Closed.textAt_add (closed : s.Closed) (stored : e < s.next) (n : ErrorNode) (i : Nat) :
    (s.add n).2.graph.textAt e i = s.graph.textAt e i := by
  have same {d : Nat} (h : d < s.next) : (s.add n).2.node d = s.node d := node_add_of_lt n h
  exact CauseGraph.textAt_congr (P := (· < s.next)) (fun d c _ => closed d c)
    (fun d h => congrArg ErrorNode.cause (same h))
    (fun d h => congrArg ErrorNode.display (same h)) stored i

/-- Behind an error that has been added are the texts of its cause. -/
theorem Closed.textAt_add_next (closed : s.Closed) (stored : e < s.next) {n : ErrorNode}
    (cause : n.cause = some e) (i : Nat) :
    (s.add n).2.graph.textAt s.next (i + 1) = s.graph.textAt e i := by
  have node : (s.add n).2.node s.next = n := node_add_next s n
  have parts : (s.add n).2.graph.cause s.next = some e :=
    (congrArg ErrorNode.cause node).trans cause
  rw [CauseGraph.textAt_succ_of_cause parts, closed.textAt_add stored]

private theorem display_add_next (s : ErrorStore) (n : ErrorNode) :
    (s.add n).2.graph.textAt s.next 0 = some n.display := by
  have node : (s.add n).2.node s.next = n := node_add_next s n
  exact congrArg some (congrArg ErrorNode.display node)

/-- Texts that have been put in front of an error stand in front of the texts behind it, the last
one outermost. The induction is on the texts; the first of them is the innermost. -/
theorem Closed.inContexts (closed : s.Closed) (stored : e < s.next) (texts : List String) {a : Nat}
    {t : ErrorStore} (h : ErrorNode.inContexts s e texts = (a, t)) :
    t.Closed ∧ a < t.next ∧ ∀ i, t.graph.textAt a i =
      if i < texts.length then texts.reverse[i]? else s.graph.textAt e (i - texts.length) := by
  induction texts generalizing s e with
  | nil =>
    cases h
    exact ⟨closed, stored, fun i => rfl⟩
  | cons text texts ih =>
    have closed' : (s.add (.context text e)).2.Closed := closed.add fun c cause => by
      cases cause
      exact stored
    have stored' : s.next < (s.add (.context text e)).2.next := by
      rw [next_add]
      exact Nat.lt_succ_self _
    obtain ⟨closedAll, storedAll, behind⟩ := ih closed' stored' h
    refine ⟨closedAll, storedAll, fun i => ?_⟩
    rw [behind, List.reverse_cons, List.length_cons]
    rcases Nat.lt_trichotomy i texts.length with before | rfl | after
    · rw [if_pos before, if_pos (Nat.lt_succ_of_lt before),
        List.getElem?_append_left (by rwa [List.length_reverse])]
    · rw [if_neg (Nat.lt_irrefl _), if_pos (Nat.lt_succ_self _), Nat.sub_self, display_add_next,
        List.getElem?_append_right (Nat.le_of_eq List.length_reverse), List.length_reverse,
        Nat.sub_self]
      rfl
    · rw [if_neg (Nat.lt_asymm after), if_neg (by omega)]
      obtain ⟨k, rfl⟩ : ∃ k, i = texts.length + 1 + k := ⟨i - (texts.length + 1), by omega⟩
      have one : texts.length + 1 + k - texts.length = k + 1 := by omega
      have two : texts.length + 1 + k - (texts.length + 1) = k := by omega
      rw [one, two]
      exact closed.textAt_add_next stored rfl k

end ErrorStore

/-! ## The error that is returned -/

theorem RefusalError.getElem?_sources {ν : Type} (g : CauseGraph ν)
    (fault : AssemblyError ν) (limit i : Nat) :
    ((RefusalError.assembly fault).sources g limit)[i]? =
      if i < limit then g.textAt fault.cause i else none :=
  CauseGraph.getElem?_upTo_display limit i fault.cause

namespace ErrorStore

/-- The error of an assembly and that of a refusal which hides it have the same texts behind
them. -/
theorem Closed.textAt_fault {s : ErrorStore} (closed : s.Closed) {fault : AssemblyError Nat}
    (stored : fault.cause < s.next) {n : ErrorNode}
    (h : n = .ofAssemblyError s.graph fault ∨ n = .ofRefusalError s.graph (.assembly fault)) :
    (s.add n).2.graph.textAt s.next 0 = some (fault.text s.graph) ∧
      ∀ i, (s.add n).2.graph.textAt s.next (i + 1) = s.graph.textAt fault.cause i := by
  have parts : n.display = fault.text s.graph ∧ n.cause = some fault.cause := by
    rcases h with rfl | rfl <;> exact ⟨rfl, rfl⟩
  obtain ⟨display, cause⟩ := parts
  refine ⟨?_, closed.textAt_add_next stored cause⟩
  rw [display_add_next, display]

end ErrorStore

/-- When a failure carries a rejection, an error of the source of identifiers is returned as such,
whatever the clock would have said, and so is one of the clock when an identifier was had. The error
that is returned says which of them failed, and then the text of the collaborator's error; the texts
of its sources are those of the collaborator's error and its causes, of a chain that ends or of one
that does not. So it is when the error is one of a store, with any texts put in front of any other
error, and the error that is returned is put into the store in its turn, be it that of the assembly
or that of the refusal around it. -/
theorem Refuser.collaborator_error_passed_on {σ ν : Type} [DecidableEq ν] (f : Refuser σ ν)
    (g : CauseGraph ν) (command : Command) (entry : Entry) (failure : ν) (s : σ) {r : Rejection}
    (carries : g.Carries failure f.settings.maxCauseDepth.toNat r) :
    (∀ a s₁, f.assembler.nextId s = (.error a, s₁) →
      f.Asks g command entry failure s (.error (.assembly (.idGeneration a))) s₁ [.identifier]) ∧
    (∀ id s₁ a s₂, f.assembler.nextId s = (.ok id, s₁) → f.assembler.now s₁ = (.error a, s₂) →
      f.Asks g command entry failure s (.error (.assembly (.clock a))) s₂ [.identifier, .time]) ∧
    (∀ a, (RefusalError.assembly (.idGeneration a)).text g =
        "event id generation failed: " ++ g.display a ∧
      (RefusalError.assembly (.clock a)).text g = "clock unavailable: " ++ g.display a) ∧
    (∀ (fault : AssemblyError ν) limit i, ((RefusalError.assembly fault).sources g limit)[i]? =
      if i < limit then g.textAt fault.cause i else none) ∧
    ∀ (store : ErrorStore) (root : Nat) (contexts : List String) (fault : AssemblyError Nat)
        (t : ErrorStore),
      store.Closed → root < store.next →
      ErrorNode.inContexts store root contexts = (fault.cause, t) →
      ∀ n, (n = .ofAssemblyError t.graph fault ∨ n = .ofRefusalError t.graph (.assembly fault)) →
        (t.add n).2.graph.textAt (t.add n).1 0 = some (fault.text t.graph) ∧
        ∀ i, (t.add n).2.graph.textAt (t.add n).1 (i + 1) =
          if i < contexts.length then contexts.reverse[i]?
          else store.graph.textAt root (i - contexts.length) := by
  obtain ⟨e, found⟩ := (g.exists_unwrap_eq_ok_iff entry _ failure r).2 carries
  refine ⟨fun a s₁ fails => asks_of_noIdentifier found fails,
    fun id s₁ a s₂ hid fails => asks_of_noTime found hid fails, fun a => ⟨?_, ?_⟩,
    RefusalError.getElem?_sources g,
    fun store root contexts fault t closed stored wrapped n h => ?_⟩
  · unfold RefusalError.text AssemblyError.text
    simp only [toString]
  · unfold RefusalError.text AssemblyError.text
    simp only [toString]
  · obtain ⟨closedAll, storedAll, behind⟩ := closed.inContexts stored contexts wrapped
    obtain ⟨first, rest⟩ := closedAll.textAt_fault storedAll h
    exact ⟨first, fun i => (rest i).trans (behind i)⟩

/-! No identifier is left for the refusal of a withdrawal, and the clock has stopped too. -/

namespace Drained

def shards : ErrorStore where
  nodes := #[
    .ofRejection ErrorStore.empty.graph
      ⟨"bank::Overdrawn", "overdrawn", none, ⟨"bank.Overdrawn", .ofJson .null⟩, none⟩,
    .ofText "shard 7 is full"]

def contexts : List String := ["all shards are full", "no identifier"]

def errors : ErrorStore := (ErrorNode.inContexts shards 1 contexts).2

def command : Command :=
  .ofMessage (.ofNat 7) ⟨"bank.Withdraw", .ofJson .null⟩ ⟨.ofNat 3, none, ⟨⟨2024, 2, 29⟩, 0, 0⟩⟩

def refuser : Refuser Unit Nat := ⟨⟨.failing 3, .failing 1⟩, .standard⟩

theorem closed_shards : shards.Closed := by
  intro e c cause
  match e with
  | 0 => cases cause
  | 1 => cases cause
  | e + 2 =>
    rw [ErrorStore.node_of_le (Nat.le_add_left 2 e)] at cause
    cases cause

theorem carries_errors : ∃ r, errors.graph.Carries 0 refuser.settings.maxCauseDepth.toNat r :=
  ⟨_, (errors.graph.exists_unwrap_eq_ok_iff .erased _ 0 _).1 ⟨0, rfl⟩⟩

end Drained

open Drained in
theorem Refuser.collaborator_error_passed_on_drained :
    (refuser.refuse errors.graph command .erased 0 ()).result =
      .error (.assembly (.idGeneration 3)) ∧
    (RefusalError.assembly (.idGeneration 3)).text errors.graph =
      "event id generation failed: " ++ "no identifier" ∧
    ((RefusalError.assembly (.idGeneration 3)).sources errors.graph 40)[1]? =
      some "all shards are full" ∧
    (errors.add (.ofRefusalError errors.graph (.assembly (.idGeneration 3)))).2.graph.textAt 4 3 =
      some "shard 7 is full" ∧
    (errors.add (.ofRefusalError errors.graph (.assembly (.idGeneration 3)))).2.graph.textAt 4 4 =
      none := by
  obtain ⟨r, carries⟩ := carries_errors
  obtain ⟨identifier, -, text, sources, stored⟩ :=
    collaborator_error_passed_on refuser errors.graph command .erased 0 () carries
  obtain ⟨-, behind⟩ :=
    stored shards 1 contexts (.idGeneration 3) errors closed_shards (by decide) rfl _ (.inr rfl)
  refine ⟨(identifier 3 () rfl).1, (text 3).1, ?_, behind 2, behind 3⟩
  exact sources (.idGeneration 3) 40 1

end EventLineage
