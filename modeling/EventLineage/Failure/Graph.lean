import EventLineage.Failure.Naming
import EventLineage.Rejection

/-! # Errors and their causes

An error may name another error as its cause. Following causes from an error gives a chain, which
may end, go on without end, or come back to an error already met; so errors are the nodes of a
graph, and two errors are the same when they are the same node. -/
namespace EventLineage

structure CauseGraph (ν : Type) where
  cause : ν → Option ν
  display : ν → String
  /-- The form of the error for diagnosis. -/
  debug : ν → String
  /-- The error's type, if it is one of those known by name. -/
  familiar : ν → Option Familiar
  /-- The rejection that the error is, if it is one. -/
  rejection : ν → Option Rejection

namespace CauseGraph

variable {ν : Type} (g : CauseGraph ν)

/-- The error that is so many links behind another one. -/
def chain (e : ν) : Nat → Option ν
  | 0 => some e
  | n + 1 => chain e n >>= g.cause

/-- At most so many errors, the first of them given, each the cause of the one before. -/
def upTo : Nat → Option ν → List ν
  | 0, _ => []
  | _ + 1, none => []
  | n + 1, some e => e :: upTo n (g.cause e)

/-- The texts of at most so many causes of an error, nearest first. -/
def causeTexts (n : Nat) (e : ν) : List String := (g.upTo n (g.cause e)).map g.display

@[simp] theorem chain_zero (e : ν) : g.chain e 0 = some e := rfl

theorem chain_succ (e : ν) (n : Nat) : g.chain e (n + 1) = g.chain e n >>= g.cause := rfl

@[simp] theorem upTo_none (n : Nat) : g.upTo n none = [] := by cases n <;> rfl

theorem upTo_succ_some (n : Nat) (e : ν) :
    g.upTo (n + 1) (some e) = e :: g.upTo n (g.cause e) := rfl

theorem length_upTo_le (n : Nat) (e : Option ν) : (g.upTo n e).length ≤ n := by
  induction n generalizing e with
  | zero => simp [upTo]
  | succ n ih =>
    cases e with
    | none => simp
    | some e => simpa [upTo] using ih (g.cause e)

end CauseGraph

/-- What a business rule says when it refuses a command. -/
structure DomainRejection (ν : Type) where
  typeName : String
  display : String
  cause : Option ν
  message : Message
  producer : Option Producer

/-- The rejection made of it, with its trace, where these calls have led. -/
def Rejection.captured (g : CauseGraph ν) (d : DomainRejection ν) (calls : String) : Rejection where
  typeName := d.typeName
  message := d.message
  producer := d.producer
  trace :=
    Trace.withCalls d.typeName d.display ((g.upTo Trace.causeLimit d.cause).map g.display) calls

/-- The rejection made of it when calls are not recorded. -/
def Rejection.ofDomain (g : CauseGraph ν) (d : DomainRejection ν) : Rejection :=
  .captured g d Trace.unrecorded

end EventLineage
