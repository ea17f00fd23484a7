import EventLineage.Proofs.Diagnostics

/-! # Failures that come with the name of their type, and without it

A walk does not depend on whether the failure comes with the name of its type, and nor does what is
made of the rejection that it finds. The name shows in one place: in the type that a defect reports,
if the walk has never left the failure and its type is not one of those known by name. -/
namespace EventLineage

variable {σ ν : Type}

namespace CauseGraph

variable (g : CauseGraph ν)

/-- A walk along so many links does not leave the failure: it has no cause, it is its own cause, or
no link may be followed. -/
def Stays (failure : ν) (links : Nat) : Prop :=
  g.cause failure = none ∨ g.cause failure = some failure ∨ links = 0

/-- The defects that a failure is found to be when it comes with the name of its type and without
it: they differ in the type that is reported at most, and only if the walk stays at an error of
unknown type. -/
structure SameDefect (typeName : String) (failure : ν) (links : Nat)
    (typed erased : Defect) : Prop where
  text : typed.failure = erased.failure
  ending : typed.ending = erased.ending
  actualType : ¬(g.Stays failure links ∧ g.familiar failure = none) →
    typed.actualType = erased.actualType
  ofStay : g.Stays failure links → g.familiar failure = none →
    typed.actualType = typeName ∧ erased.actualType = Naming.ofDebug (g.debug failure)

variable [DecidableEq ν] {g} {links : Nat} {met : List ν} {failure last e : ν} {ending : Ending}

/-- A walk stops where it is or at an error that it had not met. The induction is on the links; an
error met on the way is never come back to. -/
theorem eq_or_fresh_of_follow (h : g.follow links met last = .stopped ending e) :
    e = last ∨ e ∉ met := by
  induction links generalizing met last with
  | zero =>
    cases hc : g.cause last with
    | none =>
      rw [follow_of_no_cause hc] at h
      cases h
      exact .inl rfl
    | some next =>
      rw [follow_zero hc] at h
      cases h
      exact .inl rfl
  | succ links ih =>
    cases hc : g.cause last with
    | none =>
      rw [follow_of_no_cause hc] at h
      cases h
      exact .inl rfl
    | some next =>
      by_cases back : next ∈ met
      · rw [follow_of_met hc back] at h
        cases h
        exact .inl rfl
      · cases hr : g.rejection next with
        | some r =>
          rw [follow_of_rejection hc back hr] at h
          cases h
        | none =>
          rw [follow_of_fresh hc back hr] at h
          rcases ih h with rfl | fresh
          · exact .inr back
          · exact .inr fun old => fresh (List.mem_cons_of_mem _ old)

private theorem Stays.eq_of_follow (stays : g.Stays failure links)
    (h : g.follow links [failure] failure = .stopped ending last) : last = failure := by
  cases hc : g.cause failure with
  | none =>
    rw [follow_of_no_cause hc] at h
    cases h
    rfl
  | some next =>
    cases links with
    | zero =>
      rw [follow_zero hc] at h
      cases h
      rfl
    | succ links =>
      rcases stays with none | own | zero
      · rw [hc] at none
        cases none
      · rw [hc] at own
        cases own
        rw [follow_of_met hc (List.mem_singleton.2 rfl)] at h
        cases h
        rfl
      · cases zero

private theorem stays_of_follow (h : g.follow links [failure] failure = .stopped ending failure) :
    g.Stays failure links := by
  cases hc : g.cause failure with
  | none => exact .inl hc
  | some next =>
    by_cases own : next = failure
    · exact .inr (.inl (by rw [hc, own]))
    · cases links with
      | zero => exact .inr (.inr rfl)
      | succ links =>
        have fresh : next ∉ [failure] := fun mem => own (List.mem_singleton.1 mem)
        cases hr : g.rejection next with
        | some r =>
          rw [follow_of_rejection hc fresh hr] at h
          cases h
        | none =>
          rw [follow_of_fresh hc fresh hr] at h
          rcases eq_or_fresh_of_follow h with same | new
          · exact absurd same.symm own
          · exact absurd (List.mem_cons_of_mem _ (List.mem_singleton_self failure)) new

/-- A walk that stops has come no further than the failure if and only if it stays there. -/
theorem last_eq_iff_stays (h : g.walk links failure = .stopped ending last) :
    last = failure ↔ g.Stays failure links := by
  cases hr : g.rejection failure with
  | some r =>
    rw [walk_of_rejection hr] at h
    cases h
  | none =>
    rw [walk_of_plain hr] at h
    constructor
    · rintro rfl
      exact stays_of_follow h
    · intro stays
      exact stays.eq_of_follow h

theorem sameDefect (name : String) (h : g.walk links failure = .stopped ending last) :
    g.SameDefect name failure links (g.defect (.typed name) failure ending last)
      (g.defect .erased failure ending last) where
  text := rfl
  ending := rfl
  actualType apart := by
    show g.typeName (.typed name) failure last = g.typeName .erased failure last
    cases known : g.familiar last with
    | some familiar => rw [typeName_of_familiar known, typeName_of_familiar known]
    | none =>
      have moved : last ≠ failure := by
        intro same
        exact apart ⟨(last_eq_iff_stays h).1 same, same ▸ known⟩
      rw [typeName_typed_of_ne name known moved, typeName_erased known]
  ofStay stays unknown := by
    obtain rfl := (last_eq_iff_stays h).2 stays
    exact ⟨typeName_typed_self name unknown, typeName_erased unknown⟩

/-- Either both ways find the same rejection, or both find a defect. -/
theorem unwrap_typed_erased (name : String) (links : Nat) (failure : ν) :
    (∃ found, g.unwrap (.typed name) links failure = .ok found ∧
      g.unwrap .erased links failure = .ok found) ∨
      ∃ typed erased, g.unwrap (.typed name) links failure = .error typed ∧
        g.unwrap .erased links failure = .error erased ∧
        g.SameDefect name failure links typed erased := by
  cases h : g.walk links failure with
  | found e r =>
    exact .inl ⟨(e, r), unwrap_of_found h, unwrap_of_found h⟩
  | stopped ending last =>
    exact .inr ⟨_, _, unwrap_of_stopped h, unwrap_of_stopped h, sameDefect name h⟩

end CauseGraph

namespace Refuser

/-- Whether a failure comes with the name of its type or without it, it is unwrapped to the same
error and rejection, and refused with the same event or the same error of a collaborator, which are
left in the same state. A failure that is a defect is one either way, with the same text and the
same ending; the type that is reported is the same too, unless the walk stays at the failure and its
type is not known by name: then it is the name with which it came, or else what its form for
diagnosis begins with. A refusal reports just the defects that unwrapping the failure gives. -/
theorem typed_erased_agree [DecidableEq ν] (f : Refuser σ ν) (g : CauseGraph ν) (command : Command)
    (name : String) (failure : ν) (links : Nat) (s : σ) :
    ((∀ found, g.unwrap (.typed name) links failure = .ok found ↔
        g.unwrap .erased links failure = .ok found) ∧
      ∀ typed, g.unwrap (.typed name) links failure = .error typed →
        ∃ erased, g.unwrap .erased links failure = .error erased ∧
          g.SameDefect name failure links typed erased) ∧
    (f.refuse g command (.typed name) failure s).state =
      (f.refuse g command .erased failure s).state ∧
    (∀ event, (f.refuse g command (.typed name) failure s).result = .ok event ↔
      (f.refuse g command .erased failure s).result = .ok event) ∧
    (∀ fault, (f.refuse g command (.typed name) failure s).result = .error (.assembly fault) ↔
      (f.refuse g command .erased failure s).result = .error (.assembly fault)) ∧
    (∀ typed, (f.refuse g command (.typed name) failure s).result = .error (.defect typed) →
      ∃ erased, (f.refuse g command .erased failure s).result = .error (.defect erased) ∧
        g.SameDefect name failure f.settings.maxCauseDepth.toNat typed erased) ∧
    ∀ entry d, (f.refuse g command entry failure s).result = .error (.defect d) ↔
      g.unwrap entry f.settings.maxCauseDepth.toNat failure = .error d := by
  constructor
  · rcases g.unwrap_typed_erased name links failure with
      ⟨found, typed, erased⟩ | ⟨d, d', typed, erased, same⟩
    · rw [typed, erased]
      exact ⟨fun _ => Iff.rfl, fun _ h => by cases h⟩
    · rw [typed, erased]
      refine ⟨fun _ => ⟨nofun, nofun⟩, fun _ h => ?_⟩
      cases h
      exact ⟨d', rfl, same⟩
  · rcases g.unwrap_typed_erased name f.settings.maxCauseDepth.toNat failure with
      ⟨⟨e, r⟩, typed, erased⟩ | ⟨d, d', typed, erased, same⟩
    · have carries := (g.exists_unwrap_eq_ok_iff .erased _ failure r).1 ⟨e, erased⟩
      have same :
          f.refuse g command (.typed name) failure s = f.refuse g command .erased failure s :=
        refuse_eq_of_carries carries carries
      rw [same]
      refine ⟨rfl, fun _ => Iff.rfl, fun _ => Iff.rfl, fun d h => ?_,
        fun _ _ => refuse_eq_defect_iff⟩
      rw [unwrap_of_refuse_eq_defect h] at erased
      cases erased
    · rw [refuse_of_defect typed, refuse_of_defect erased]
      refine ⟨rfl, fun _ => ⟨nofun, nofun⟩, fun _ => ⟨nofun, nofun⟩, fun _ h => ?_,
        fun _ _ => refuse_eq_defect_iff⟩
      cases h
      exact ⟨d', rfl, same⟩

end Refuser

/-! The withdrawal fails for a reason that no rule has given: the failure is looked at as it is, and
in an error that wraps it. -/

def Withdrawal.unexplained : CauseGraph Bool :=
  { wrapping overdrawn with rejection := fun _ => none }

open Withdrawal in
/-- A walk that stays at the failure reports the name with which it came, or else what its form for
diagnosis begins with. A walk that leaves the wrapping error reports the same type either way. -/
theorem Refuser.typed_erased_agree_withdrawal :
    (∃ typed erased,
      (wrappingRefuser.refuse unexplained command (.typed "bank::TooLow") false ()).result =
        .error (.defect typed) ∧
      (wrappingRefuser.refuse unexplained command .erased false ()).result =
        .error (.defect erased) ∧
      typed.actualType = "bank::TooLow" ∧ erased.actualType = "Rejected" ∧
      typed.failure = erased.failure ∧ typed.ending = erased.ending) ∧
    (∃ typed erased,
      (wrappingRefuser.refuse unexplained command (.typed "bank::Failed") true ()).result =
        .error (.defect typed) ∧
      (wrappingRefuser.refuse unexplained command .erased true ()).result =
        .error (.defect erased) ∧
      typed.actualType = "Rejected" ∧ erased.actualType = "Rejected") ∧
    (wrappingRefuser.refuse (wrapping overdrawn) command (.typed "bank::Failed") true ()).result =
      .ok (rejectionEvent .standard command overdrawn (.ofNat 1) noon) := by
  obtain ⟨-, -, -, -, stays, -⟩ := typed_erased_agree wrappingRefuser unexplained command
    "bank::TooLow" false 32 ()
  obtain ⟨-, -, -, -, leaves, -⟩ := typed_erased_agree wrappingRefuser unexplained command
    "bank::Failed" true 32 ()
  obtain ⟨-, -, event, -⟩ := typed_erased_agree wrappingRefuser (wrapping overdrawn) command
    "bank::Failed" true 32 ()
  refine ⟨?_, ?_, (event _).2 (refuse_wrapping overdrawn)⟩
  · obtain ⟨erased, other, same⟩ := stays _ rfl
    obtain ⟨typed, untyped⟩ := same.ofStay (.inl rfl) rfl
    exact ⟨_, erased, rfl, other, typed, untyped, same.text, same.ending⟩
  · obtain ⟨erased, other, same⟩ := leaves _ rfl
    have moved : ¬unexplained.Stays true wrappingRefuser.settings.maxCauseDepth.toNat := by
      rintro (none | own | zero)
      · cases none
      · cases own
      · cases zero
    exact ⟨_, erased, rfl, other, rfl, (same.actualType fun both => moved both.1).symm⟩

end EventLineage
