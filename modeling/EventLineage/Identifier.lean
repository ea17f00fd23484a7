import EventLineage.InputError
import EventLineage.Json.Codec
import EventLineage.Uuid

/-! # Identifiers of commands, events, tenants, users and aggregates

Each kind of thing has identifiers of its own; all of them are universally unique identifiers and
are spelled as such. -/
namespace EventLineage

inductive IdKind where
  | command
  | event
  | tenant
  | user
  | aggregate
  deriving Repr, DecidableEq

namespace IdKind

def all : List IdKind := [.command, .event, .tenant, .user, .aggregate]

def name : IdKind → String
  | .command => "CommandId"
  | .event => "EventId"
  | .tenant => "TenantId"
  | .user => "UserId"
  | .aggregate => "AggregateId"

def ofName? (name : String) : Option IdKind := all.find? fun k => k.name == name

end IdKind

structure Identifier (kind : IdKind) where
  uuid : Uuid
  deriving Repr, DecidableEq

abbrev CommandId := Identifier .command
abbrev EventId := Identifier .event
abbrev TenantId := Identifier .tenant
abbrev UserId := Identifier .user
abbrev AggregateId := Identifier .aggregate

/-- How identifiers are spelled in JSON. -/
def Uuid.wording : Wording Uuid where
  expected := "a formatted UUID string"
  print := Uuid.text
  parse s :=
    match Uuid.parse s with
    | .ok u => .ok u
    | .error fault => .error s!"UUID parsing failed: {fault.text}"

namespace Identifier

variable {kind : IdKind}

def text (i : Identifier kind) : String := i.uuid.text

instance : ToString (Identifier kind) := ⟨text⟩

def ofNat (n : Nat) : Identifier kind := ⟨.ofNat n⟩

def parse (kind : IdKind) (s : String) : Except InputError (Identifier kind) :=
  match Uuid.parse s with
  | .ok u => .ok ⟨u⟩
  | .error fault => .error (.invalidId s!"{kind.name}: {fault.text}")

def wording : Wording (Identifier kind) where
  expected := Uuid.wording.expected
  print := text
  parse s := (Uuid.wording.parse s).map .mk

def codec : Codec (Identifier kind) := wording.codec

end Identifier
end EventLineage
