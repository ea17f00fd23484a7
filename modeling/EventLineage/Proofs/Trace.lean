import EventLineage.Proofs.Failure.Chain
import EventLineage.Proofs.Storage.Invariants

/-! # What the trace of a rejection tells

A trace begins with the type and the text of what the business rule says. If that has a cause, the
causes follow, nearest first and with their indices, and 32 of them at most, so that a chain without
an end has a trace too. The calls that led to the rejection come last. -/
namespace EventLineage

/-! ## Lists with indices -/

private theorem length_eq_of_isSome_iff {l : List α} {n : Nat}
    (h : ∀ i, l[i]?.isSome ↔ i < n) : l.length = n := by
  have last := h l.length
  have behind := h n
  rw [isSome_getElem?] at last behind
  omega

private theorem mapIdx_map (l : List α) (f : α → β) (h : Nat → β → γ) :
    (l.map f).mapIdx h = l.mapIdx fun i a => h i (f a) := by
  apply List.ext_getElem?
  intro i
  simp only [List.getElem?_mapIdx, List.getElem?_map, Option.map_map, Function.comp_def]

/-! ## Causes -/

/-- The cause with an index, the nearest one first. -/
def DomainRejection.causeAt {ν : Type} (g : CauseGraph ν) (d : DomainRejection ν) (i : Nat) :
    Option ν :=
  d.cause >>= fun e => g.chain e i

namespace DomainRejection

variable {ν : Type} {g : CauseGraph ν} {d : DomainRejection ν}

/-- An error with the same cause, as the rejection itself is one, has the same causes behind it. -/
theorem causeAt_eq_chain {e : ν} (h : g.cause e = d.cause) (i : Nat) :
    d.causeAt g i = g.chain e (i + 1) := by
  rw [CauseGraph.chain_succ_eq_cause_bind, h]
  rfl

private theorem isSome_causeAt_of_closesAt {e c : ν} {n : Nat} (h : d.cause = some e)
    (closes : g.ClosesAt e n c) (i : Nat) : (d.causeAt g i).isSome := by
  obtain ⟨b, hb⟩ := closes.exists_chain i
  have found : d.causeAt g i = some b := by
    rw [causeAt, h]
    exact hb
  rw [found]
  rfl

variable (g d)

/-- The causes that the trace lists. -/
def listed : List ν := g.upTo Trace.causeLimit d.cause

private theorem getElem?_listed (i : Nat) :
    (d.listed g)[i]? = if i < 32 then d.causeAt g i else none :=
  CauseGraph.getElem?_upTo 32 i d.cause

private theorem isSome_getElem?_listed (i : Nat) :
    ((d.listed g)[i]?).isSome ↔ i < 32 ∧ (d.causeAt g i).isSome := by
  rw [getElem?_listed]
  split
  · rename_i lt
    exact (and_iff_right lt).symm
  · rename_i ge
    exact iff_of_false nofun fun both => ge both.1

theorem listed_eq_nil_iff : d.listed g = [] ↔ d.cause = none := by
  unfold listed
  cases d.cause with
  | none => simp
  | some e => simp [Trace.causeLimit, CauseGraph.upTo_succ_some]

variable {g d}

theorem length_listed_of_count {n : Nat} (h : ∀ i, (d.causeAt g i).isSome ↔ i < n) :
    (d.listed g).length = min n 32 := by
  apply length_eq_of_isSome_iff
  intro i
  rw [isSome_getElem?_listed, h, Nat.lt_min]
  exact And.comm

theorem length_listed_of_endless (h : ∀ i, (d.causeAt g i).isSome) : (d.listed g).length = 32 := by
  apply length_eq_of_isSome_iff
  intro i
  rw [isSome_getElem?_listed]
  exact and_iff_left (h i)

end DomainRejection

/-! ## Contexts -/

namespace RejectionContext

variable {document : Document} {command : Command} {r : Rejection}

/-- A context that is made of a rejection with a trace passes the check of the reader. -/
theorem load_ofRejection (traced : ∃ c ∈ r.trace.toList, Text.isBlank c = false)
    (read : parts.load document = .ok (command, r.trace, ())) :
    RejectionContext.codec.load document = .ok (.ofRejection command r) :=
  load_eq_ok_iff.2 ⟨traced, read⟩

theorem load_toValue_ofRejection (traced : Text.isBlankText r.trace = false)
    (time : command.context.actorContext.timestamp.Faithful) :
    RejectionContext.codec.load (.value (RejectionContext.codec.toValue (.ofRejection command r))) =
      .ok (.ofRejection command r) := by
  have kept : RejectionContext.codec.Keeps (.ofRejection command r) := keeps time traced
  simp only [Codec.load]
  exact kept.fromValue_toValue

end RejectionContext

/-! ## Traces -/

namespace Trace

private theorem entry_eq (index : Nat) (cause : String) :
    entry index cause = "\n    " ++ toString index ++ ": " ++ cause := by
  simp only [entry, String.append_assoc, toString]

/-- By induction on the causes: the index of the first of them grows. -/
theorem entries_eq_join (index : Nat) (causes : List String) :
    entries index causes = String.join (causes.mapIdx fun i cause => entry (index + i) cause) := by
  induction causes generalizing index with
  | nil => rfl
  | cons cause rest ih =>
    have shift (i : Nat) : index + 1 + i = index + (i + 1) := by omega
    rw [entries, ih, List.mapIdx_cons, String.join_cons]
    simp only [shift, Nat.add_zero]

private theorem causesText_eq {causes : List String} (few : causes.length ≤ causeLimit) :
    causesText causes = if causes.isEmpty then "" else
      "\n\nCaused by:" ++ String.join (causes.mapIdx entry) := by
  rw [causesText, List.take_of_length_le few, entries_eq_join]
  simp only [Nat.zero_add]

end Trace

namespace Rejection

variable {ν : Type} (g : CauseGraph ν) (d : DomainRejection ν) (calls : String)

theorem trace_eq : (captured g d calls).trace = d.typeName ++ ": " ++ d.display ++
    (if d.cause.isNone then "" else "\n\nCaused by:" ++
      String.join ((d.listed g).mapIdx fun i e => "\n    " ++ toString i ++ ": " ++ g.display e)) ++
    "\n\nStack backtrace:\n" ++ calls := by
  have few : ((d.listed g).map g.display).length ≤ Trace.causeLimit := by
    rw [List.length_map]
    exact g.length_upTo_le _ _
  have some : ((d.listed g).map g.display).isEmpty = d.cause.isNone := by
    rw [Bool.eq_iff_iff, List.isEmpty_iff, List.map_eq_nil_iff, d.listed_eq_nil_iff,
      Option.isNone_iff_eq_none]
  have causes := Trace.causesText_eq few
  rw [some, mapIdx_map] at causes
  simp only [Trace.entry_eq] at causes
  show Trace.withCalls d.typeName d.display ((d.listed g).map g.display) calls = _
  unfold Trace.withCalls Trace.callsText
  simp only [causes, String.append_assoc, toString]

/-- A trace is made of any text and any chain of causes, one that ends or one that does not: it
lists the causes that are found behind the rejection, all of them or the first 32. It is never
blank, so a context that is made with it is one that can be loaded. -/
theorem trace_captured :
    ∃ listed : List ν,
      (captured g d calls).trace = d.typeName ++ ": " ++ d.display ++
        (if d.cause.isNone then "" else "\n\nCaused by:" ++
          String.join (listed.mapIdx fun i e => "\n    " ++ toString i ++ ": " ++ g.display e)) ++
        "\n\nStack backtrace:\n" ++ calls ∧
      (∀ i, listed[i]? = if i < 32 then d.causeAt g i else none) ∧
      (listed = [] ↔ d.cause = none) ∧
      (∀ n, (∀ i, (d.causeAt g i).isSome ↔ i < n) → listed.length = min n 32) ∧
      ((∀ i, (d.causeAt g i).isSome) → listed.length = 32) ∧
      (∀ e n c, d.cause = some e → g.ClosesAt e n c → listed.length = 32) ∧
      (∀ e, g.cause e = d.cause → ∀ i, d.causeAt g i = g.chain e (i + 1)) ∧
      (captured g d calls).trace ≠ "" ∧
      (∃ c ∈ (captured g d calls).trace.toList, Text.isBlank c = false) ∧
      ∀ command,
        (∀ document,
          RejectionContext.parts.load document = .ok (command, (captured g d calls).trace, ()) →
          RejectionContext.codec.load document = .ok (.ofRejection command (captured g d calls))) ∧
        (command.context.actorContext.timestamp.Faithful →
          RejectionContext.codec.load (.value (RejectionContext.codec.toValue
            (.ofRejection command (captured g d calls)))) =
            .ok (.ofRejection command (captured g d calls))) := by
  have made : (captured g d calls).Made := ⟨ν, g, d, calls, rfl⟩
  have full := Text.isBlankText_eq_false_iff.1 made.traced
  refine ⟨d.listed g, trace_eq g d calls, d.getElem?_listed g, d.listed_eq_nil_iff g,
    fun n h => DomainRejection.length_listed_of_count h, DomainRejection.length_listed_of_endless,
    fun e n c h closes => ?_, fun e h => DomainRejection.causeAt_eq_chain h,
    fun empty => ?_, full, fun command => ⟨fun document read => ?_, fun time => ?_⟩⟩
  · exact DomainRejection.length_listed_of_endless
      (DomainRejection.isSome_causeAt_of_closesAt h closes)
  · obtain ⟨c, mem, -⟩ := full
    rw [empty] at mem
    cases mem
  · exact RejectionContext.load_ofRejection full read
  · exact RejectionContext.load_toValue_ofRejection made.traced time

end Rejection

/-! A rule names an error that is its own cause. -/

namespace Echo

def errors : CauseGraph Unit where
  cause _ := some ()
  display _ := "echo"
  debug _ := "Echo"
  familiar _ := none
  rejection _ := none

def refusal : DomainRejection Unit := { Withdrawal.refusal with cause := some () }

theorem closesAt_errors : errors.ClosesAt () 1 () where
  reached := rfl
  back := ⟨0, Nat.zero_lt_one, rfl⟩
  first m hm j hj := by omega

end Echo

open Echo in
theorem Rejection.trace_captured_echo : errors.ClosesAt () 1 () ∧
    ∃ listed : List Unit, listed.length = 32 ∧
      (Rejection.captured errors refusal "0: main").trace =
        "bank::Overdrawn" ++ ": " ++ "overdrawn" ++
        ("\n\nCaused by:" ++
          String.join (listed.mapIdx fun i _ => "\n    " ++ toString i ++ ": " ++ "echo")) ++
        "\n\nStack backtrace:\n" ++ "0: main" := by
  obtain ⟨listed, trace, -, -, -, -, closing, -⟩ := trace_captured errors refusal "0: main"
  exact ⟨closesAt_errors, listed, closing () 1 () rfl closesAt_errors, trace⟩

end EventLineage
