import EventLineage.Failure.Graph

/-! # Walks: the rejection that a failure carries

A walk follows the causes of a failure until it meets a rejection. It also stops where an error has
no cause, where so many links have been followed as are allowed, and where the next error has been
met before; a failure whose walk stops like this is a defect. -/
namespace EventLineage

/-- How a walk stopped that met no rejection. -/
inductive Ending where
  | terminal
  | cycle
  | depthExceeded
  deriving Repr, DecidableEq

def Ending.name : Ending → String
  | .terminal => "Terminal"
  | .cycle => "Cycle"
  | .depthExceeded => "DepthExceeded"

/-- Where a walk led. -/
inductive Walk (ν : Type) where
  | found (e : ν) (rejection : Rejection)
  | stopped (ending : Ending) (last : ν)

/-- How a failure comes to the walk: with the full name of its type, or without. -/
inductive Entry where
  | typed (typeName : String)
  | erased
  deriving Repr, DecidableEq

/-- A failure that carries no rejection. -/
structure Defect where
  /-- The text of the failure. -/
  failure : String
  /-- The type of the last error that was looked at. -/
  actualType : String
  ending : Ending
  deriving Repr, DecidableEq

namespace Defect

/-- What a failure is expected to carry. -/
def expected : String := "DomainRejection"

def text (d : Defect) : String :=
  s!"the cause of `{d.failure}` has the type `{d.actualType}`; expected: `{expected}`"

end Defect

namespace CauseGraph

variable {ν : Type} [DecidableEq ν] (g : CauseGraph ν)

/-- Go on from `last`, the latest of the errors met, along so many more links. -/
def follow (links : Nat) (met : List ν) (last : ν) : Walk ν :=
  match g.cause last, links with
  | none, _ => .stopped .terminal last
  | some _, 0 => .stopped .depthExceeded last
  | some next, links + 1 =>
    if next ∈ met then .stopped .cycle last
    else
      match g.rejection next with
      | some r => .found next r
      | none => follow links (next :: met) next

/-! One equation for each way in which a walk goes on or stops. -/

variable {g} {links : Nat} {met : List ν} {last next : ν}

attribute [local simp] follow

theorem follow_of_no_cause (h : g.cause last = none) :
    g.follow links met last = .stopped .terminal last := by
  cases links <;> simp [h]

theorem follow_zero (h : g.cause last = some next) :
    g.follow 0 met last = .stopped .depthExceeded last := by
  simp [h]

theorem follow_of_met (h : g.cause last = some next) (back : next ∈ met) :
    g.follow (links + 1) met last = .stopped .cycle last := by
  simp [h, back]

theorem follow_of_rejection {r : Rejection} (h : g.cause last = some next) (fresh : next ∉ met)
    (hr : g.rejection next = some r) : g.follow (links + 1) met last = .found next r := by
  simp [h, fresh, hr]

theorem follow_of_fresh (h : g.cause last = some next) (fresh : next ∉ met)
    (hr : g.rejection next = none) :
    g.follow (links + 1) met last = g.follow links (next :: met) next := by
  simp [h, fresh, hr]

variable (g)

def walk (links : Nat) (failure : ν) : Walk ν :=
  match g.rejection failure with
  | some r => .found failure r
  | none => g.follow links [failure] failure

section Walk

variable {g} {failure : ν}

attribute [local simp] walk

theorem walk_of_rejection {r : Rejection} (h : g.rejection failure = some r) :
    g.walk links failure = .found failure r := by
  simp [h]

theorem walk_of_plain (h : g.rejection failure = none) :
    g.walk links failure = g.follow links [failure] failure := by
  simp [h]

end Walk

/-- The name of an error's type: the known one first, then the one with which the failure itself
came, then the one that its form for diagnosis begins with. -/
def typeName (entry : Entry) (failure e : ν) : String :=
  match g.familiar e, entry with
  | some known, _ => known.name
  | none, .typed name => if e = failure then name else Naming.ofDebug (g.debug e)
  | none, .erased => Naming.ofDebug (g.debug e)

section TypeName

variable {g} {entry : Entry} {failure e : ν}

attribute [local simp] typeName

theorem typeName_of_familiar {known : Familiar} (h : g.familiar e = some known) :
    g.typeName entry failure e = known.name := by
  simp [h]

theorem typeName_erased (h : g.familiar e = none) :
    g.typeName .erased failure e = Naming.ofDebug (g.debug e) := by
  simp [h]

theorem typeName_typed_of_ne (name : String) (h : g.familiar e = none) (ne : e ≠ failure) :
    g.typeName (.typed name) failure e = Naming.ofDebug (g.debug e) := by
  simp [h, ne]

theorem typeName_typed_self (name : String) (h : g.familiar failure = none) :
    g.typeName (.typed name) failure failure = name := by
  simp [h]

end TypeName

def defect (entry : Entry) (failure : ν) (ending : Ending) (last : ν) : Defect :=
  ⟨g.display failure, g.typeName entry failure last, ending⟩

/-- The rejection that a failure carries, and the error that is it. -/
def unwrap (entry : Entry) (links : Nat) (failure : ν) : Except Defect (ν × Rejection) :=
  match g.walk links failure with
  | .found e r => .ok (e, r)
  | .stopped ending last => .error (g.defect entry failure ending last)

section Unwrap

variable {g} {entry : Entry} {failure : ν}

attribute [local simp] unwrap

theorem unwrap_of_found {e : ν} {r : Rejection} (h : g.walk links failure = .found e r) :
    g.unwrap entry links failure = .ok (e, r) := by
  simp [h]

theorem unwrap_of_stopped {ending : Ending} (h : g.walk links failure = .stopped ending last) :
    g.unwrap entry links failure = .error (g.defect entry failure ending last) := by
  simp [h]

end Unwrap

/-- The links that a walk follows unless told otherwise. -/
def defaultLinks : Nat := 128

end CauseGraph
end EventLineage
