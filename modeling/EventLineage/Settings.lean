import EventLineage.Failure.Walk
import EventLineage.Log.Record
import EventLineage.Text.Quoted

/-! # Settings of the refusal of commands

The producer recorded when a rejection names none, and the number of causes that a walk follows.
Both may be set by environment variables; a value that cannot be used is reported and passed
over. -/
namespace EventLineage

structure Settings where
  unknownProducer : Producer := .unknown
  maxCauseDepth : UInt64 := 128
  deriving Repr, DecidableEq

namespace Settings

def standard : Settings := {}

instance : Inhabited Settings := ⟨standard⟩

def withUnknownProducer (s : Settings) (p : Producer) : Settings := { s with unknownProducer := p }

/-- A depth of zero counts as one. -/
def withMaxCauseDepth (s : Settings) (depth : UInt64) : Settings :=
  { s with maxCauseDepth := if depth = 0 then 1 else depth }

def producerVariable : String := "CAUSA_UNKNOWN_PRODUCER"

def depthVariable : String := "CAUSA_MAX_CAUSE_DEPTH"

def logTarget : String := "causa_events::config"

def warning (message : String) : Log.Record := ⟨.warn, logTarget, message, []⟩

/-- Digits, with at most one plus sign in front, that spell a number from 1 to 2⁶⁴ − 1. -/
def depth? (cs : List Char) : Option UInt64 :=
  match Text.natural? (Text.withoutPlus cs) with
  | none => none
  | some n => if 0 < n ∧ n < UInt64.size then some (.ofNat n) else none

/-- Take the value of the variable that names a producer; it is taken as it is. -/
def takeProducer (s : Settings) : Option String → Settings × List Log.Record
  | none => (s, [])
  | some raw =>
    match Producer.ofName raw with
    | .ok p => (s.withUnknownProducer p, [])
    | .error e =>
      (s, [warning s!"{producerVariable} invalid ({e.text}); using {s.unknownProducer.name}"])

/-- Take the value of the variable that gives a depth; blanks around it do not count. -/
def takeDepth (s : Settings) : Option String → Settings × List Log.Record
  | none => (s, [])
  | some raw =>
    match depth? (Text.trim raw.toList) with
    | some depth => ({ s with maxCauseDepth := depth }, [])
    | none =>
      (s, [warning (s!"{depthVariable}={Text.quoted raw} is not a positive integer; " ++
        s!"using {s.maxCauseDepth}")])

/-- The settings that the values of the two variables ask for, and what there is to report. -/
def ofEnvironment (producer depth : Option String) : Settings × List Log.Record :=
  let (s, reported) := standard.takeProducer producer
  let (s, more) := s.takeDepth depth
  (s, reported ++ more)

end Settings
end EventLineage
