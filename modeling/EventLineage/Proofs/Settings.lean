import EventLineage.Proofs.Failure.Walk
import EventLineage.Proofs.Text.Numerals
import EventLineage.Settings

/-! # What settings there can be

Each of the two variables decides about one of the settings: the producer is taken as it is named,
unless nothing but blanks names it, and the depth is the number of a numeral that is neither zero
nor too large. The settings may be changed any number of times afterwards, and the last change of
each kind counts. However they came about, a walk follows one link at least. -/
namespace EventLineage
namespace Settings
open Text

variable {s : Settings}

/-! ## The variables -/

theorem depth?_eq_some_iff {cs : List Char} {d : UInt64} :
    depth? cs = some d ↔ natural? (withoutPlus cs) = some d.toNat ∧ 1 ≤ d.toNat := by
  unfold depth?
  cases natural? (withoutPlus cs) with
  | none => simp
  | some n =>
    simp only [Option.ite_none_right_eq_some, Option.some.injEq]
    constructor
    · rintro ⟨⟨positive, fits⟩, rfl⟩
      rw [UInt64.toNat_ofNat_of_lt' fits]
      exact ⟨rfl, positive⟩
    · rintro ⟨rfl, positive⟩
      exact ⟨⟨positive, d.toNat_lt_size⟩, UInt64.ofNat_toNat⟩

/-- The depth that the value of the variable gives. -/
def depthOf? (value : Option String) : Option UInt64 :=
  value.bind fun raw => depth? (trim raw.toList)

theorem depthOf?_eq_some_iff {value : Option String} {d : UInt64} :
    depthOf? value = some d ↔
      ∃ raw, value = some raw ∧ Numeral raw.toList d.toNat ∧ 1 ≤ d.toNat := by
  simp only [depthOf?, Option.bind_eq_some_iff, depth?_eq_some_iff, numeral_iff]

theorem unknownProducer_takeDepth (s : Settings) (value : Option String) :
    (s.takeDepth value).1.unknownProducer = s.unknownProducer := by
  cases value with
  | none => rfl
  | some raw =>
    rw [takeDepth]
    split <;> rfl

private theorem maxCauseDepth_takeProducer (s : Settings) (value : Option String) :
    (s.takeProducer value).1.maxCauseDepth = s.maxCauseDepth := by
  cases value with
  | none => rfl
  | some raw =>
    rw [takeProducer]
    split <;> rfl

theorem name_takeProducer (s : Settings) (raw : String) :
    (s.takeProducer (some raw)).1.unknownProducer.name =
      if isBlankText raw then s.unknownProducer.name else raw := by
  rw [takeProducer]
  cases named : Producer.ofName raw with
  | ok p =>
    obtain ⟨full, rfl⟩ := Producer.ofName_eq_ok_iff.1 named
    rw [full]
    rfl
  | error fault =>
    rw [if_pos]
    by_cases blank : isBlankText raw
    · exact blank
    · rw [Producer.ofName_eq_ok_iff.2 ⟨Bool.eq_false_iff.2 blank, rfl⟩] at named
      cases named

private theorem maxCauseDepth_takeDepth (s : Settings) (value : Option String) :
    (s.takeDepth value).1.maxCauseDepth = (depthOf? value).getD s.maxCauseDepth := by
  cases value with
  | none => rfl
  | some raw =>
    rw [takeDepth, depthOf?, Option.bind_some]
    cases depth? (trim raw.toList) <;> rfl

/-! Settings from the environment. -/

theorem fst_ofEnvironment (producer depth : Option String) :
    (ofEnvironment producer depth).1 = ((standard.takeProducer producer).1.takeDepth depth).1 := rfl

theorem unknownProducer_ofEnvironment (producer depth : Option String) :
    (ofEnvironment producer depth).1.unknownProducer =
      (standard.takeProducer producer).1.unknownProducer := by
  rw [fst_ofEnvironment, unknownProducer_takeDepth]

theorem maxCauseDepth_ofEnvironment (producer depth : Option String) :
    (ofEnvironment producer depth).1.maxCauseDepth = (depthOf? depth).getD 128 := by
  rw [fst_ofEnvironment, maxCauseDepth_takeDepth, maxCauseDepth_takeProducer]
  rfl

private theorem maxCauseDepth_ofEnvironment_of_numeral (producer : Option String) {raw : String}
    {n : Nat} (numeral : Numeral raw.toList n) (positive : 1 ≤ n) (fits : n < UInt64.size) :
    (ofEnvironment producer (some raw)).1.maxCauseDepth.toNat = n := by
  have value : (UInt64.ofNat n).toNat = n := UInt64.toNat_ofNat_of_lt' fits
  rw [← value] at numeral positive
  rw [maxCauseDepth_ofEnvironment, depthOf?_eq_some_iff.2 ⟨raw, rfl, numeral, positive⟩]
  exact value

private theorem maxCauseDepth_ofEnvironment_of_no_numeral (producer : Option String)
    {depth : Option String}
    (unread : ∀ raw n, depth = some raw → Numeral raw.toList n → ¬(1 ≤ n ∧ n < UInt64.size)) :
    (ofEnvironment producer depth).1.maxCauseDepth = 128 := by
  rw [maxCauseDepth_ofEnvironment]
  cases read : depthOf? depth with
  | none => rfl
  | some d =>
    obtain ⟨raw, given, numeral, positive⟩ := depthOf?_eq_some_iff.1 read
    exact absurd ⟨positive, d.toNat_lt_size⟩ (unread raw d.toNat given numeral)

/-! ## Changes -/

/-- A change made to settings. -/
inductive Change where
  | unknownProducer (p : Producer)
  | maxCauseDepth (depth : UInt64)
  deriving Repr, DecidableEq

namespace Change

def producer? : Change → Option Producer
  | unknownProducer p => some p
  | maxCauseDepth _ => none

def depth? : Change → Option UInt64
  | unknownProducer _ => none
  | maxCauseDepth depth => some depth

end Change

def change (s : Settings) : Change → Settings
  | .unknownProducer p => s.withUnknownProducer p
  | .maxCauseDepth depth => s.withMaxCauseDepth depth

def changed (s : Settings) (changes : List Change) : Settings := changes.foldl change s

@[simp] theorem changed_cons (s : Settings) (c : Change) (changes : List Change) :
    s.changed (c :: changes) = (s.change c).changed changes := rfl

theorem toNat_maxCauseDepth_withMaxCauseDepth (s : Settings) (depth : UInt64) :
    (s.withMaxCauseDepth depth).maxCauseDepth.toNat = max 1 depth.toNat := by
  unfold withMaxCauseDepth
  split
  · rename_i zero
    subst zero
    rfl
  · rename_i positive
    have ne : depth.toNat ≠ 0 := fun zero => positive (UInt64.toNat_inj.1 zero)
    exact (Nat.max_eq_right (Nat.one_le_iff_ne_zero.2 ne)).symm

/-- The last change of the producer counts. -/
theorem unknownProducer_changed (s : Settings) (changes : List Change) :
    (s.changed changes).unknownProducer =
      (changes.filterMap Change.producer?).getLast?.getD s.unknownProducer := by
  -- The induction is for all settings: the first change makes those that the others start from.
  induction changes generalizing s with
  | nil => rfl
  | cons c changes ih =>
    rw [changed_cons, ih]
    cases c with
    | unknownProducer p =>
      rw [List.filterMap_cons_some (show Change.producer? (.unknownProducer p) = some p from rfl),
        List.getLast?_cons]
      rfl
    | maxCauseDepth depth =>
      rw [List.filterMap_cons_none (show Change.producer? (.maxCauseDepth depth) = none from rfl)]
      rfl

/-- The last change of the depth counts. -/
theorem maxCauseDepth_changed (s : Settings) (changes : List Change) :
    (s.changed changes).maxCauseDepth.toNat =
      ((changes.filterMap Change.depth?).getLast?.map fun d => max 1 d.toNat).getD
        s.maxCauseDepth.toNat := by
  induction changes generalizing s with
  | nil => rfl
  | cons c changes ih =>
    rw [changed_cons, ih]
    cases c with
    | unknownProducer p =>
      rw [List.filterMap_cons_none (show Change.depth? (.unknownProducer p) = none from rfl)]
      rfl
    | maxCauseDepth depth =>
      have first : Change.depth? (.maxCauseDepth depth) = some depth := rfl
      rw [List.filterMap_cons_some first, List.getLast?_cons]
      cases (changes.filterMap Change.depth?).getLast? with
      | none => exact toNat_maxCauseDepth_withMaxCauseDepth s depth
      | some d => rfl

private theorem eq_of_parts {s t : Settings} (producer : s.unknownProducer = t.unknownProducer)
    (depth : s.maxCauseDepth = t.maxCauseDepth) : s = t := by
  obtain ⟨p, d⟩ := s
  obtain ⟨q, e⟩ := t
  cases producer
  cases depth
  rfl

/-- Changes of different kinds may be put in any order. -/
theorem changed_congr (s : Settings) {changes others : List Change}
    (producers : changes.filterMap Change.producer? = others.filterMap Change.producer?)
    (depths : changes.filterMap Change.depth? = others.filterMap Change.depth?) :
    s.changed changes = s.changed others := by
  have producer : (s.changed changes).unknownProducer = (s.changed others).unknownProducer := by
    rw [unknownProducer_changed, unknownProducer_changed, producers]
  have depth : (s.changed changes).maxCauseDepth = (s.changed others).maxCauseDepth := by
    rw [← UInt64.toNat_inj, maxCauseDepth_changed, maxCauseDepth_changed, depths]
  exact eq_of_parts producer depth

/-! ## Settings that can be reached -/

/-- Settings come from the environment, be the variables set or not, and may be changed. -/
inductive Reached : Settings → Prop
  | environment (producer depth : Option String) : Reached (ofEnvironment producer depth).1
  | change {s : Settings} (before : Reached s) (c : Change) : Reached (s.change c)

theorem Reached.standard : standard.Reached := .environment none none

theorem Reached.changed (h : s.Reached) (changes : List Change) : (s.changed changes).Reached := by
  induction changes generalizing s with
  | nil => exact h
  | cons c changes ih => exact ih (h.change c)

/-- A depth that is read is checked, and one that is given is raised to one if it is zero. -/
theorem Reached.one_le_maxCauseDepth (h : s.Reached) : 1 ≤ s.maxCauseDepth.toNat := by
  induction h with
  | environment producer depth =>
    rw [maxCauseDepth_ofEnvironment]
    cases read : depthOf? depth with
    | none => decide
    | some d =>
      obtain ⟨-, -, -, positive⟩ := depthOf?_eq_some_iff.1 read
      exact positive
  | @change s _ c ih =>
    cases c with
    | unknownProducer p => exact ih
    | maxCauseDepth depth =>
      rw [show s.change (.maxCauseDepth depth) = s.withMaxCauseDepth depth from rfl,
        toNat_maxCauseDepth_withMaxCauseDepth]
      exact Nat.le_max_left 1 _

end Settings

/-! ## Walks of one link -/

namespace CauseGraph

variable {ν : Type} [DecidableEq ν] {g : CauseGraph ν} {failure c : ν} {r : Rejection}

theorem unwrap_of_rejection (entry : Entry) (links : Nat) (h : g.rejection failure = some r) :
    g.unwrap entry links failure = .ok (failure, r) :=
  unwrap_of_found (walk_of_rejection h)

theorem unwrap_of_cause (entry : Entry) {links : Nat} (one : 1 ≤ links)
    (plain : g.rejection failure = none) (cause : g.cause failure = some c)
    (h : g.rejection c = some r) :
    g.unwrap entry links failure = .ok (c, r) := by
  obtain ⟨links, rfl⟩ := Nat.exists_eq_succ_of_ne_zero (Nat.one_le_iff_ne_zero.1 one)
  refine unwrap_of_found ((walk_of_plain plain).trans (follow_of_rejection cause ?_ h))
  intro back
  rw [List.mem_singleton.1 back, plain] at h
  cases h

end CauseGraph

namespace Settings
open Text

/-- The environment names the producer, untrimmed, unless it names it by blanks, and gives the depth
if that is, trimmed, a numeral for a number from 1 to below 2⁶⁴; what is not given is `Unknown` and
128. Neither variable has a part in what the other one decides. Among changes made to settings the
last of each kind counts, where a depth of zero is one, and those of different kinds may change
places. Settings that are reached in these ways have walks of at least one link, so a rejection that
is the failure itself or its direct cause is found. -/
theorem environment_and_changes (producer depth : Option String) :
    (∀ name, producer = some name → (∃ c ∈ name.toList, isBlank c = false) →
      (ofEnvironment producer depth).1.unknownProducer.name = name) ∧
    ((∀ name, producer = some name → ∀ c ∈ name.toList, isBlank c = true) →
      (ofEnvironment producer depth).1.unknownProducer.name = "Unknown") ∧
    (∀ raw n, depth = some raw → Numeral raw.toList n → 1 ≤ n → n < UInt64.size →
      (ofEnvironment producer depth).1.maxCauseDepth.toNat = n) ∧
    ((∀ raw n, depth = some raw → Numeral raw.toList n → ¬(1 ≤ n ∧ n < UInt64.size)) →
      (ofEnvironment producer depth).1.maxCauseDepth.toNat = 128) ∧
    (∀ other,
      (ofEnvironment producer other).1.unknownProducer =
        (ofEnvironment producer depth).1.unknownProducer ∧
      (ofEnvironment other depth).1.maxCauseDepth =
        (ofEnvironment producer depth).1.maxCauseDepth) ∧
    (∀ (s : Settings) (changes : List Change),
      (s.changed changes).unknownProducer =
        (changes.filterMap Change.producer?).getLast?.getD s.unknownProducer ∧
      (s.changed changes).maxCauseDepth.toNat =
        ((changes.filterMap Change.depth?).getLast?.map fun d => max 1 d.toNat).getD
          s.maxCauseDepth.toNat) ∧
    (∀ (s : Settings) (p : Producer) (d : UInt64),
      (s.withUnknownProducer p).withMaxCauseDepth d =
        (s.withMaxCauseDepth d).withUnknownProducer p) ∧
    (∀ (s : Settings) (changes others : List Change),
      changes.filterMap Change.producer? = others.filterMap Change.producer? →
      changes.filterMap Change.depth? = others.filterMap Change.depth? →
      s.changed changes = s.changed others) ∧
    (∀ s : Settings, s.Reached → 1 ≤ s.maxCauseDepth.toNat ∧
      ∀ (ν : Type) [DecidableEq ν] (g : CauseGraph ν) (entry : Entry) (failure : ν) (r : Rejection),
        (g.rejection failure = some r →
          g.unwrap entry s.maxCauseDepth.toNat failure = .ok (failure, r)) ∧
        ∀ c, g.rejection failure = none → g.cause failure = some c → g.rejection c = some r →
          g.unwrap entry s.maxCauseDepth.toNat failure = .ok (c, r)) := by
  refine ⟨?_, ?_, ?_, fun unread => ?_, fun other => ⟨?_, ?_⟩,
    fun s changes => ⟨unknownProducer_changed s changes, maxCauseDepth_changed s changes⟩,
    fun s p d => rfl, fun s changes others => changed_congr s, fun s reached => ?_⟩
  · rintro name rfl full
    rw [unknownProducer_ofEnvironment, name_takeProducer, isBlankText_eq_false_iff.2 full]
    rfl
  · intro blank
    rw [unknownProducer_ofEnvironment]
    cases producer with
    | none => rfl
    | some name =>
      have all : isBlankText name = true := List.all_eq_true.2 (blank name rfl)
      rw [name_takeProducer, if_pos all]
      rfl
  · rintro raw n rfl numeral positive fits
    exact maxCauseDepth_ofEnvironment_of_numeral producer numeral positive fits
  · exact congrArg UInt64.toNat (maxCauseDepth_ofEnvironment_of_no_numeral producer unread)
  · rw [unknownProducer_ofEnvironment, unknownProducer_ofEnvironment]
  · rw [maxCauseDepth_ofEnvironment, maxCauseDepth_ofEnvironment]
  · have one := reached.one_le_maxCauseDepth
    exact ⟨one, fun ν _ g entry failure r => ⟨CauseGraph.unwrap_of_rejection entry _,
      fun c plain cause h => CauseGraph.unwrap_of_cause entry one plain cause h⟩⟩

/-! The settings of a billing service, and one of its failures. -/

namespace Billing

def name : String := " billing "

def depth : String := "\t+007 "

def tooLarge : String := "18446744073709551616"

def noAddress : Rejection := ⟨"billing::NoAddress", ⟨"billing.NoAddress", .ofJson .null⟩, none, ""⟩

def unsent : CauseGraph Bool where
  cause sending := if sending then some false else none
  display sending := if sending then "invoice not sent" else "no address"
  debug _ := "Billing"
  familiar _ := none
  rejection sending := if sending then none else some noAddress

theorem numeral_depth : Numeral depth.toList 7 := numeral_iff.2 (by decide)

theorem numeral_tooLarge {n : Nat} (h : Numeral tooLarge.toList n) : n = UInt64.size := by
  have read : natural? (withoutPlus (trim tooLarge.toList)) = some UInt64.size := by decide
  exact Option.some.inj ((numeral_iff.1 h).symm.trans read)

end Billing

open Billing in
theorem environment_and_changes_billing :
    (ofEnvironment (some name) (some depth)).1.unknownProducer.name = " billing " ∧
    (ofEnvironment (some name) (some depth)).1.maxCauseDepth.toNat = 7 ∧
    (ofEnvironment (some "\t") (some tooLarge)).1.unknownProducer.name = "Unknown" ∧
    (ofEnvironment (some "\t") (some tooLarge)).1.maxCauseDepth.toNat = 128 ∧
    standard.changed [.maxCauseDepth 3, .unknownProducer ⟨name⟩] =
      standard.changed [.unknownProducer ⟨name⟩, .maxCauseDepth 3] ∧
    unsent.unwrap .erased (standard.changed [.maxCauseDepth 0]).maxCauseDepth.toNat true =
      .ok (false, noAddress) := by
  obtain ⟨named, -, given, -, -, -, -, reordered, reached⟩ :=
    environment_and_changes (some name) (some depth)
  obtain ⟨-, unnamed, -, notGiven, -⟩ := environment_and_changes (some "\t") (some tooLarge)
  refine ⟨named name rfl ⟨'b', by decide, by decide⟩,
    given depth 7 rfl numeral_depth (by decide) (by decide), unnamed ?_, notGiven ?_,
    reordered standard _ _ rfl rfl, ?_⟩
  · rintro _ ⟨⟩
    have blank : Text.isBlankText "\t" = true := by decide
    exact List.all_eq_true.1 blank
  · rintro _ n ⟨⟩ numeral ⟨-, fits⟩
    rw [numeral_tooLarge numeral] at fits
    exact Nat.lt_irrefl _ fits
  · obtain ⟨-, walks⟩ := reached _ (Reached.standard.changed [.maxCauseDepth 0])
    exact (walks Bool unsent .erased true noAddress).2 false rfl rfl rfl

end Settings
end EventLineage
