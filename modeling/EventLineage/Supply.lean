import EventLineage.Assembly

/-! # Collaborators whose answers are known beforehand

Identifiers counted from one, a clock that stands still, collaborators that always fail, and ones
that give listed answers. -/
namespace EventLineage.Supply

variable {σ τ ν α : Type}

def constant (a : α) : Supply σ ν α := fun s => (.ok a, s)

def failing (e : ν) : Supply σ ν α := fun s => (.error e, s)

/-- The identifier that a count stands for. -/
def numbered (count : UInt64) : EventId := .ofNat count.toNat

/-- The identifiers 1, 2, 3, …; the state is the count of those given. -/
def counted : Supply UInt64 ν EventId := fun last => (.ok (numbered (last + 1)), last + 1)

/-- One listed answer after the other, and an error when there is none left. -/
def listed (exhausted : ν) : Supply (List (Except ν α)) ν α
  | [] => (.error exhausted, [])
  | answer :: rest => (answer, rest)

/-- Work on one part of the state. -/
def within (get : σ → τ) (set : τ → σ → σ) (supply : Supply τ ν α) : Supply σ ν α := fun s =>
  let (answer, t) := supply (get s)
  (answer, set t s)

theorem numbered_injective {m n : UInt64} (h : numbered m = numbered n) : m = n := by
  have bits := congrArg (fun i => i.uuid.bits.toNat) h
  simp only [numbered, Identifier.ofNat, Uuid.ofNat, BitVec.toNat_ofNat] at bits
  have hm := m.toNat_lt
  have hn := n.toNat_lt
  exact UInt64.toNat_inj.1 (by omega)

end EventLineage.Supply
