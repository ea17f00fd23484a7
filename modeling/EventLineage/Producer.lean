import EventLineage.Identifier
import EventLineage.Text.Blank

/-! # Producers of events

A producer is named by a text, usually the identifier of an aggregate or of a user. One name stands
for a producer that nobody has told. A name that is given directly must not be blank; one that is
read from JSON is taken as it is. -/
namespace EventLineage

structure Producer where
  name : String
  deriving Repr, DecidableEq

namespace Producer

def unknown : Producer := ⟨"Unknown"⟩

def isUnknown (p : Producer) : Bool := p == unknown

def ofName (name : String) : Except InputError Producer :=
  if Text.isBlankText name then .error (.invalidId "ProducerId: must not be blank") else .ok ⟨name⟩

def ofAggregate (i : AggregateId) : Producer := ⟨i.text⟩

def ofUser (i : UserId) : Producer := ⟨i.text⟩

instance : Inhabited Producer := ⟨unknown⟩

instance : ToString Producer := ⟨name⟩

def codec : Codec Producer := Codec.string.map .mk name

theorem ofName_eq_ok_iff {name : String} {p : Producer} :
    ofName name = .ok p ↔ Text.isBlankText name = false ∧ p = ⟨name⟩ := by
  unfold ofName
  split
  · rename_i h
    simp [h]
  · rename_i h
    simp only [Except.ok.injEq]
    exact ⟨fun e => ⟨by simpa using h, e.symm⟩, fun e => e.2.symm⟩

end Producer
end EventLineage
