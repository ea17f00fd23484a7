import EventLineage.Event
import EventLineage.Failure.Graph

/-! # Assembly of events

An assembler has two collaborators, a source of identifiers and a clock. Each of them may fail, and
each call may change their common state. An assembly asks for the identifier first and then for the
time; the first failure ends it. -/
namespace EventLineage

/-- Something that gives a value or fails, and changes the state. -/
abbrev Supply (σ ν α : Type) := σ → Except ν α × σ

structure Assembler (σ ν : Type) where
  nextId : Supply σ ν EventId
  now : Supply σ ν Instant

/-- A collaborator failed. -/
inductive AssemblyError (ν : Type) where
  | idGeneration (error : ν)
  | clock (error : ν)
  deriving Repr, DecidableEq

namespace AssemblyError

/-- The error of the collaborator. -/
def cause : AssemblyError ν → ν
  | .idGeneration e => e
  | .clock e => e

def kind : AssemblyError ν → String
  | .idGeneration _ => "IdGeneration"
  | .clock _ => "Clock"

def text (g : CauseGraph ν) : AssemblyError ν → String
  | .idGeneration e => s!"event id generation failed: {g.display e}"
  | .clock e => s!"clock unavailable: {g.display e}"

/-- The texts of at most so many causes, the collaborator's error first. -/
def sources (g : CauseGraph ν) (limit : Nat) (e : AssemblyError ν) : List String :=
  (g.upTo limit (some e.cause)).map g.display

end AssemblyError

namespace Assembler

variable {σ ν : Type}

def assemble (a : Assembler σ ν) (origin : Origin) (producer : Producer) (message : Message)
    (detail : ContextDetail) (s : σ) : Except (AssemblyError ν) Event × σ :=
  match a.nextId s with
  | (.error e, s) => (.error (.idGeneration e), s)
  | (.ok id, s) =>
    match a.now s with
    | (.error e, s) => (.error (.clock e), s)
    | (.ok time, s) => (.ok ⟨id, message, ⟨origin, producer, detail⟩, time⟩, s)

end Assembler

/-- Makes events on behalf of one producer, all with the same origin. -/
structure EventMaker (σ ν : Type) where
  assembler : Assembler σ ν
  origin : Origin
  producer : Producer

namespace EventMaker

variable {σ ν : Type}

/-- Make an event, with the version of the producer after it, if it has one. -/
def event (m : EventMaker σ ν) (message : Message) (version : Option Version) :
    σ → Except (AssemblyError ν) Event × σ :=
  m.assembler.assemble m.origin m.producer message
    (match version with
    | some v => .versioned v
    | none => .plain)

/-- Make an event that tells of a rejection; it has no version. -/
def rejection (m : EventMaker σ ν) (message : Message) (context : RejectionContext) :
    σ → Except (AssemblyError ν) Event × σ :=
  m.assembler.assemble m.origin m.producer message (.rejection context)

end EventMaker
end EventLineage
