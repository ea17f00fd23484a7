/-! # Steps that succeed

What is done in steps succeeds if and only if each of the steps does. -/
namespace EventLineage

theorem bind_eq_ok_iff {ε : Type u} {α β : Type v} {x : Except ε α} {f : α → Except ε β} {b : β} :
    x >>= f = .ok b ↔ ∃ a, x = .ok a ∧ f a = .ok b := by
  cases x <;> simp [bind, Except.bind]

theorem map_eq_ok_iff {ε : Type u} {α : Type v} {β : Type w} {x : Except ε α} {f : α → β} {b : β} :
    x.map f = .ok b ↔ ∃ a, x = .ok a ∧ f a = b := by
  cases x <;> simp [Except.map]

theorem mapM_eq_ok_iff {ε : Type u} {α : Type v} {β : Type w} {f : β → Except ε α} {bs : List β}
    {as : List α} : bs.mapM f = .ok as ↔ bs.map f = as.map .ok := by
  induction bs generalizing as with
  | nil =>
    constructor
    · intro h
      cases h
      rfl
    · intro h
      cases as with
      | nil => rfl
      | cons => cases h
  | cons b bs ih =>
    simp only [List.mapM_cons, bind_eq_ok_iff]
    constructor
    · rintro ⟨a, first, others, read, same⟩
      cases same
      rw [List.map_cons, List.map_cons, first, ih.1 read]
    · intro h
      cases as with
      | nil => cases h
      | cons a as =>
        obtain ⟨first, rest⟩ := List.cons.inj h
        exact ⟨a, first, as, ih.2 rest, rfl⟩

end EventLineage
