/-! # Sets of characters given by ranges of code points -/
namespace EventLineage.Text

/-- A character belongs to a table when one of its ranges, ends included, holds its code point. -/
def inRanges (table : List (Nat × Nat)) (c : Char) : Bool :=
  table.any fun (low, high) => low ≤ c.toNat && c.toNat ≤ high

theorem inRanges_iff {table : List (Nat × Nat)} {c : Char} :
    inRanges table c = true ↔ ∃ r ∈ table, r.1 ≤ c.toNat ∧ c.toNat ≤ r.2 := by
  simp [inRanges]

end EventLineage.Text
