import EventLineage.Refusal
import EventLineage.Supply

/-! # Interleaving: threads that share one counter of identifiers

Each thread refuses one command after the other. A refusal has four steps: walk the failure, draw an
identifier from the shared counter, read the clock, make the event. A schedule says which thread
takes the next step; between two steps of one thread any number of steps of others may lie. -/
namespace EventLineage.Interleaving

/-- One refusal, and what the clock says when it is asked. -/
structure Call (ν : Type) where
  command : Command
  entry : Entry
  failure : ν
  reading : Except ν Instant

/-- How far a thread has come with its current call. -/
inductive Progress where
  | begun
  | walked (rejection : Rejection)
  | drawn (rejection : Rejection) (id : EventId)
  | timed (rejection : Rejection) (id : EventId) (time : Instant)

structure Thread (ν : Type) where
  /-- The calls not yet answered, the current one first. -/
  calls : List (Call ν)
  progress : Progress
  /-- The answers given, in order. -/
  answers : List (Except (RefusalError ν) Event)

structure State (ν : Type) where
  /-- The identifier drawn last. -/
  last : UInt64
  threads : List (Thread ν)

namespace Thread

variable {ν : Type}

def start (calls : List (Call ν)) : Thread ν := ⟨calls, .begun, []⟩

def answer (t : Thread ν) (rest : List (Call ν)) (a : Except (RefusalError ν) Event) : Thread ν :=
  ⟨rest, .begun, t.answers ++ [a]⟩

/-- Take one step, with the identifier drawn last. -/
def step [DecidableEq ν] (g : CauseGraph ν) (settings : Settings) (last : UInt64) (t : Thread ν) :
    Thread ν × UInt64 :=
  match t.calls with
  | [] => (t, last)
  | call :: rest =>
    match t.progress with
    | .begun =>
      match g.unwrap call.entry settings.maxCauseDepth.toNat call.failure with
      | .error d => (t.answer rest (.error (.defect d)), last)
      | .ok (_, r) => ({ t with progress := .walked r }, last)
    | .walked r => ({ t with progress := .drawn r (Supply.numbered (last + 1)) }, last + 1)
    | .drawn r id =>
      match call.reading with
      | .error e => (t.answer rest (.error (.assembly (.clock e))), last)
      | .ok time => ({ t with progress := .timed r id time }, last)
    | .timed r id time =>
      (t.answer rest (.ok (rejectionEvent settings call.command r id time)), last)

end Thread

namespace State

variable {ν : Type}

/-- Nobody has begun, and no identifier has been drawn. -/
def start (programs : List (List (Call ν))) : State ν := ⟨0, programs.map Thread.start⟩

variable [DecidableEq ν]

/-- Let the thread with an index take a step; there is nothing to do if there is none. -/
def step (g : CauseGraph ν) (settings : Settings) (s : State ν) (index : Nat) : State ν :=
  match s.threads[index]? with
  | none => s
  | some t =>
    let (t, last) := t.step g settings s.last
    ⟨last, s.threads.set index t⟩

def run (g : CauseGraph ν) (settings : Settings) (s : State ν) (schedule : List Nat) : State ν :=
  schedule.foldl (step g settings) s

def answers (s : State ν) : List (Except (RefusalError ν) Event) := s.threads.flatMap Thread.answers

def events (s : State ν) : List Event := s.answers.filterMap Except.toOption

end State

/-- Every thread takes a step, in turn, so many times. -/
def rounds (threads count : Nat) : List Nat := (List.replicate count (List.range threads)).flatten

/-- The steps of a call that is answered by an event. -/
def stepsOfCall : Nat := 4

end EventLineage.Interleaving
