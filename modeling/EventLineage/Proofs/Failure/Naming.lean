import EventLineage.Proofs.Failure.Walk

/-! # The error that a defect names

A walk that meets no rejection names the last error that it has inspected, by its type if that is
known, and otherwise by the name with which it came or by what its form for diagnosis begins with.
Nothing else on the chain has a part in the name. -/
namespace EventLineage

private theorem Familiar.name_ne_empty (known : Familiar) : known.name ≠ "" := by
  cases known <;> decide

theorem Defect.text_eq (d : Defect) :
    d.text = "the cause of `" ++ d.failure ++ "` has the type `" ++ d.actualType ++
      "`; expected: `DomainRejection`" := by
  have last :
      "`; expected: `" ++ Defect.expected ++ "`" = "`; expected: `DomainRejection`" := by
    decide
  rw [← last]
  unfold Defect.text
  simp only [String.append_assoc, toString]

/-! ## Names in forms for diagnosis -/

namespace Naming
open Text

/-- The longest beginning of a text that may stand in a name. -/
structure Longest (text : String) (name : List Char) : Prop where
  starts : name <+: text.toList
  inside : ∀ c ∈ name, isAlphanumeric c = true ∨ c = '_' ∨ c = ':'
  longest : ∀ other, other <+: text.toList →
    (∀ c ∈ other, isAlphanumeric c = true ∨ c = '_' ∨ c = ':') → other.length ≤ name.length

private theorem inName_iff {c : Char} :
    inName c = true ↔ isAlphanumeric c = true ∨ c = '_' ∨ c = ':' := by
  simp [inName, or_assoc]

private theorem inName_of_mem_takeWhile {cs : List Char} {c : Char} (h : c ∈ cs.takeWhile inName) :
    inName c = true := List.all_eq_true.1 List.all_takeWhile c h

private theorem longest_takeWhile (text : String) :
    Longest text (text.toList.takeWhile inName) where
  starts := List.takeWhile_prefix inName
  inside c hc := inName_iff.1 (inName_of_mem_takeWhile hc)
  longest other starts inside := by
    obtain ⟨rest, same⟩ := starts
    have all : ∀ c ∈ other, inName c = true := fun c hc => inName_iff.2 (inside c hc)
    rw [← same, List.takeWhile_append_of_pos all, List.length_append]
    exact Nat.le_add_right _ _

theorem ofDebug_of_quoted {debug : String} (h : debug.toList.head? = some '"') :
    ofDebug debug = "String" := by
  simp only [ofDebug, h, ↓reduceIte, ofText]

theorem ofDebug_of_not_quoted {debug : String} (h : debug.toList.head? ≠ some '"') :
    ofDebug debug = if debug.toList.takeWhile inName = [] then unnamed
      else String.ofList (debug.toList.takeWhile inName) := by
  simp only [ofDebug, if_neg h, List.isEmpty_iff]

/-- A name never looks like the mark of an error without one. -/
theorem ofList_ne_unnamed {name : List Char} (inside : ∀ c ∈ name, inName c = true) :
    String.ofList name ≠ unnamed := by
  intro same
  have mark : '<' ∈ name := by
    rw [← String.toList_ofList (l := name), same]
    decide
  have mem := inside '<' mark
  have out : inName '<' = false := by decide +kernel
  rw [out] at mem
  cases mem

private theorem exists_longest {debug : String} (h : debug.toList.head? ≠ some '"') :
    ∃ name, Longest debug name ∧ (ofDebug debug = unnamed ↔ name = []) ∧
      (name ≠ [] → ofDebug debug = String.ofList name) := by
  refine ⟨_, longest_takeWhile debug, ?_,
    fun begun => by rw [ofDebug_of_not_quoted h, if_neg begun]⟩
  rw [ofDebug_of_not_quoted h]
  split
  · rename_i empty
    exact iff_of_true rfl empty
  · rename_i begun
    exact iff_of_false (ofList_ne_unnamed fun c hc => inName_of_mem_takeWhile hc) begun

theorem ofDebug_ne_empty (debug : String) : ofDebug debug ≠ "" := by
  by_cases quoted : debug.toList.head? = some '"'
  · rw [ofDebug_of_quoted quoted]
    decide
  · rw [ofDebug_of_not_quoted quoted]
    split
    · decide
    · rename_i begun
      intro empty
      exact begun (String.ofList_eq_empty_iff.1 empty)

end Naming

namespace CauseGraph

variable {ν : Type} (g : CauseGraph ν)

/-! ## The last error inspected -/

/-- A walk along so many links comes to the error with an index and no further: no error in front of
it is met again, and it is the last one that may be followed to, or has no cause, or has a cause
that was met. -/
structure LastInspected (failure : ν) (links index : Nat) (e : ν) : Prop where
  reached : g.chain failure index = some e
  within : index ≤ links
  distinct : g.DistinctUpTo failure index
  stops : index = links ∨ ∀ next, g.cause e = some next → ∃ i ≤ index, g.chain failure i = some next

variable {g} {failure e last : ν} {links index : Nat}

namespace LastInspected

private theorem index_le {index' : Nat} {e' : ν} (h : g.LastInspected failure links index e)
    (h' : g.LastInspected failure links index' e') : index' ≤ index := by
  refine Nat.le_of_not_lt fun lt => ?_
  obtain ⟨next, reached⟩ := exists_chain_of_le h'.reached lt
  have cause : g.cause e = some next := by
    rw [chain_succ, h.reached] at reached
    exact reached
  rcases h.stops with all | met
  · exact absurd h'.within (by omega)
  · obtain ⟨i, hi, back⟩ := met next cause
    exact h'.distinct (index + 1) lt i (by omega) (back.trans reached.symm)

theorem error_eq {index' : Nat} {e' : ν} (h : g.LastInspected failure links index e)
    (h' : g.LastInspected failure links index' e') : e' = e := by
  have same : index' = index := Nat.le_antisymm (h.index_le h') (h'.index_le h)
  have reached := h'.reached
  rw [same, h.reached] at reached
  exact (Option.some.inj reached).symm

end LastInspected

private theorem lastInspected_of_stopped {ending : Ending}
    (h : g.LeadsTo failure links (.stopped ending last)) :
    ∃ index, g.LastInspected failure links index last := by
  cases ending with
  | terminal =>
    obtain ⟨n, hn, ends, -⟩ := h
    refine ⟨n, ends.reached, hn, ends.distinctUpTo, .inr fun next cause => ?_⟩
    rw [ends.noCause] at cause
    cases cause
  | cycle =>
    obtain ⟨n, hn, reached, ⟨d, closes⟩, -⟩ := h
    refine ⟨n, reached, Nat.le_of_lt hn, fun m hm => closes.first m (Nat.lt_succ_of_le hm),
      .inr fun next cause => ?_⟩
    obtain ⟨j, hj, back⟩ := closes.back
    refine ⟨j, Nat.le_of_lt_succ hj, ?_⟩
    rw [back, ← closes.reached, chain_succ, reached]
    exact cause
  | depthExceeded =>
    obtain ⟨reached, -, distinct, -⟩ := h
    exact ⟨links, reached, Nat.le_refl links, distinct, .inl rfl⟩

/-! ## Its name -/

variable (g)

/-- What an error is called: by its known type; or by the type with which it came, if it is the
failure itself; or by its form for diagnosis. -/
structure Called (entry : Entry) (failure e : ν) (name : String) : Prop where
  familiar : ∀ known, g.familiar e = some known → name = known.name
  typed : g.familiar e = none → e = failure → ∀ typeName, entry = .typed typeName → name = typeName
  quoted : g.familiar e = none → (e = failure → entry = .erased) →
    (g.debug e).toList.head? = some '"' → name = "String"
  begun : g.familiar e = none → (e = failure → entry = .erased) →
    (g.debug e).toList.head? ≠ some '"' →
    ∃ start, Naming.Longest (g.debug e) start ∧ (name = "<unnamed error>" ↔ start = []) ∧
      (start ≠ [] → name = String.ofList start)

variable {g} [DecidableEq ν] {entry : Entry}

private theorem typeName_of_unknown (unknown : g.familiar e = none)
    (untyped : e = failure → entry = .erased) :
    g.typeName entry failure e = Naming.ofDebug (g.debug e) := by
  cases entry with
  | erased => exact typeName_erased unknown
  | typed name =>
    refine typeName_typed_of_ne name unknown fun same => ?_
    cases untyped same

private theorem called_typeName : g.Called entry failure e (g.typeName entry failure e) where
  familiar known h := typeName_of_familiar h
  typed unknown same typeName typed := by
    rw [same] at unknown
    rw [same, typed]
    exact typeName_typed_self typeName unknown
  quoted unknown untyped quoted := by
    rw [typeName_of_unknown unknown untyped]
    exact Naming.ofDebug_of_quoted quoted
  begun unknown untyped unquoted := by
    rw [typeName_of_unknown unknown untyped]
    exact Naming.exists_longest unquoted

theorem typeName_ne_empty (typed : ∀ name, entry = .typed name → name ≠ "") :
    g.typeName entry failure e ≠ "" := by
  cases known : g.familiar e with
  | some familiar =>
    rw [typeName_of_familiar known]
    exact familiar.name_ne_empty
  | none =>
    by_cases untyped : e = failure → entry = .erased
    · rw [typeName_of_unknown known untyped]
      exact Naming.ofDebug_ne_empty _
    · obtain ⟨rfl, came⟩ := Classical.not_imp.1 untyped
      cases entry with
      | erased => exact absurd rfl came
      | typed name =>
        rw [typeName_typed_self name known]
        exact typed name rfl

/-- Two errors with the same type and the same form for diagnosis are called the same, unless one of
them is a failure that came with a name. -/
theorem typeName_congr {κ : Type} [DecidableEq κ] {h : CauseGraph κ} {entry' : Entry}
    {failure' e' : κ} (familiar : h.familiar e' = g.familiar e) (debug : h.debug e' = g.debug e)
    (came : ∀ name, (entry' = .typed name ∧ e' = failure') ↔ (entry = .typed name ∧ e = failure)) :
    h.typeName entry' failure' e' = g.typeName entry failure e := by
  cases known : g.familiar e with
  | some type => rw [typeName_of_familiar known, typeName_of_familiar (familiar.trans known)]
  | none =>
    by_cases typed : ∃ name, entry = .typed name ∧ e = failure
    · obtain ⟨name, typed⟩ := typed
      obtain ⟨rfl, rfl⟩ := (came name).2 typed
      obtain ⟨rfl, rfl⟩ := typed
      rw [typeName_typed_self name known, typeName_typed_self name (familiar.trans known)]
    · have untyped : e = failure → entry = .erased := by
        intro same
        cases entry with
        | erased => rfl
        | typed name => exact absurd ⟨name, rfl, same⟩ typed
      have untyped' : e' = failure' → entry' = .erased := by
        intro same
        cases entry' with
        | erased => rfl
        | typed name => exact absurd ⟨name, (came name).1 ⟨rfl, same⟩⟩ typed
      rw [typeName_of_unknown known untyped,
        typeName_of_unknown (familiar.trans known) untyped', debug]

variable (g)

/-- A failure that carries no rejection is a defect, and the defect names the last error inspected.
The name is never empty, if types have names; it is the same for every error of the same type and
form at which a walk has stopped, wherever that error stands; and what the defect says is made of
the name and the text of the failure. -/
theorem defect_names_last (entry : Entry) (links : Nat) (failure : ν)
    (none : ¬∃ r, g.Carries failure links r) :
    ∃ d index e, g.unwrap entry links failure = .error d ∧ g.LastInspected failure links index e ∧
      (∀ index' e', g.LastInspected failure links index' e' → e' = e) ∧
      g.Called entry failure e d.actualType ∧
      ((∀ name, entry = .typed name → name ≠ "") → d.actualType ≠ "") ∧
      d.text = "the cause of `" ++ g.display failure ++ "` has the type `" ++ d.actualType ++
        "`; expected: `DomainRejection`" ∧
      ∀ (κ : Type) [DecidableEq κ] (h : CauseGraph κ) (entry' : Entry) (links' : Nat) (failure' : κ)
        (d' : Defect) (index' : Nat) (e' : κ), h.unwrap entry' links' failure' = .error d' →
        h.LastInspected failure' links' index' e' →
        h.familiar e' = g.familiar e → h.debug e' = g.debug e →
        (∀ name, (entry' = .typed name ∧ e' = failure') ↔ (entry = .typed name ∧ e = failure)) →
        d'.actualType = d.actualType := by
  obtain ⟨d, hd⟩ := (g.exists_unwrap_eq_error_iff entry links failure).2 none
  obtain ⟨ending, last, stopped, rfl⟩ := (g.unwrap_eq_error_iff_walk entry links failure d).1 hd
  have leads := g.walk_leadsTo links failure
  rw [stopped] at leads
  obtain ⟨index, inspected⟩ := lastInspected_of_stopped leads
  refine ⟨_, index, last, hd, inspected, fun index' e' h' => inspected.error_eq h', called_typeName,
    typeName_ne_empty, Defect.text_eq _, ?_⟩
  intro κ _ h entry' links' failure' d' index' e' hd' inspected' familiar debug came
  obtain ⟨ending', last', stopped', rfl⟩ :=
    (h.unwrap_eq_error_iff_walk entry' links' failure' d').1 hd'
  have leads' := h.walk_leadsTo links' failure'
  rw [stopped'] at leads'
  obtain ⟨index'', inspected''⟩ := lastInspected_of_stopped leads'
  obtain rfl := inspected'.error_eq inspected''
  exact typeName_congr familiar debug came

end CauseGraph

/-! A booking failed because a store was down. -/

namespace Outage

def errors : CauseGraph Bool where
  cause booking := if booking then some false else none
  display booking := if booking then "booking failed" else "store down after 3 attempts"
  debug booking := if booking then "Failed" else "Store::Down"
  familiar _ := none
  rejection _ := none

theorem not_carries_errors : ¬∃ r, errors.Carries true 5 r :=
  (errors.exists_unwrap_eq_error_iff (.typed "bank::Failed") 5 true).1 ⟨_, rfl⟩

end Outage

open Outage in
theorem CauseGraph.defect_names_last_outage : (¬∃ r, errors.Carries true 5 r) ∧
    ∃ d, errors.unwrap (.typed "bank::Failed") 5 true = .error d ∧ d.actualType = "Store::Down" ∧
      d.text = "the cause of `" ++ "booking failed" ++ "` has the type `" ++ "Store::Down" ++
        "`; expected: `DomainRejection`" := by
  obtain ⟨d, index, e, found, -, -, -, -, text, -⟩ :=
    defect_names_last errors (.typed "bank::Failed") 5 true not_carries_errors
  have stops : errors.walk 5 true = .stopped .terminal false := rfl
  have name : errors.typeName (.typed "bank::Failed") true false = "Store::Down" := by
    decide +kernel
  cases (unwrap_of_stopped stops).symm.trans found
  refine ⟨not_carries_errors, _, found, name, ?_⟩
  rw [← name]
  exact text

end EventLineage
