import EventLineage.Uuid
import EventLineage.Proofs.Text.Digits

/-! # Identifiers are read back from their spelling -/
namespace EventLineage.Uuid
open Text

private theorem exists_digits (u : Uuid) :
    ∃ ds, u.digits = ds.map digitChar ∧ u.digits.mapM hexValue = some ds ∧ ds.length = 32 ∧
      valueOf 16 ds = u.bits.toNat ∧ ∀ d ∈ ds, d < 16 := by
  have lt : u.bits.toNat < Nat.pow 16 32 := u.bits.isLt
  obtain ⟨ds, read, value, length, shape, below⟩ :=
    exists_hexadecimal_padTo (show 0 < 32 by omega) lt
  exact ⟨ds, shape, read, length, value, below⟩

private theorem ofDigits_digits (u : Uuid) : ofDigits u.digits = some u := by
  obtain ⟨ds, -, read, -, value, -⟩ := exists_digits u
  rw [ofDigits, read, Option.map_some, value]
  simp only [ofNat, BitVec.ofNat_toNat, BitVec.setWidth_eq]

private theorem length_digits (u : Uuid) : u.digits.length = 32 := by
  obtain ⟨ds, shape, -, length, -⟩ := exists_digits u
  rw [shape, List.length_map, length]

/-! ## Groups -/

/-- The number of digits in groups of the given lengths. -/
def total : List Nat → Nat
  | [] => 0
  | n :: ns => n + total ns

private theorem length_hyphenate {ns : List Nat} (ne : ns ≠ []) {cs : List Char}
    (h : cs.length = total ns) :
    (hyphenate ns cs).length + 1 = cs.length + ns.length := by
  induction ns generalizing cs with
  | nil => exact absurd rfl ne
  | cons n ns ih =>
    cases ns with
    | nil =>
      simp only [total] at h
      simp only [hyphenate, List.length_take, List.length_cons, List.length_nil]
      omega
    | cons m ns =>
      simp only [total] at h ih
      have shorter : (cs.drop n).length = m + total ns := by
        rw [List.length_drop]
        omega
      have tail := ih (List.cons_ne_nil m ns) shorter
      simp only [List.length_drop, List.length_cons] at tail
      simp only [hyphenate, List.length_append, List.length_take, List.length_cons]
      omega

private theorem unhyphenate_hyphenate {ns : List Nat} (ne : ns ≠ []) {cs : List Char}
    (h : cs.length = total ns) :
    unhyphenate ns (hyphenate ns cs) = some cs := by
  induction ns generalizing cs with
  | nil => exact absurd rfl ne
  | cons n ns ih =>
    cases ns with
    | nil =>
      have length : cs.length = n := h
      have all : cs.take n = cs := List.take_of_length_le (Nat.le_of_eq length)
      simp only [hyphenate, unhyphenate, all, if_pos length]
    | cons m ns =>
      simp only [total] at h ih
      have shorter : (cs.drop n).length = m + total ns := by
        rw [List.length_drop]
        omega
      have tail := ih (List.cons_ne_nil m ns) shorter
      have length : (cs.take n).length = n := by
        rw [List.length_take]
        omega
      simp only [hyphenate, unhyphenate, List.drop_left' length, List.take_left' length, tail,
        Option.map_some, List.take_append_drop]

private theorem mem_hyphenate {ns : List Nat} {cs : List Char} {c : Char}
    (h : c ∈ hyphenate ns cs) :
    c = '-' ∨ c ∈ cs := by
  induction ns generalizing cs with
  | nil => cases h
  | cons n ns ih =>
    cases ns with
    | nil => exact .inr (List.mem_of_mem_take h)
    | cons m ns =>
      simp only [hyphenate, List.mem_append, List.mem_cons] at h
      rcases h with h | h | h
      · exact .inr (List.mem_of_mem_take h)
      · exact .inl h
      · exact (ih h).imp_right List.mem_of_mem_drop

/-! ## Spellings -/

private theorem utf8Size_digitChar : ∀ d < 16, (digitChar d).utf8Size = 1 := by
  decide

private theorem byteCount_eq_length {cs : List Char} (h : ∀ c ∈ cs, c.utf8Size = 1) :
    byteCount cs = cs.length := by
  induction cs with
  | nil => rfl
  | cons c cs ih =>
    rw [byteCount, h c List.mem_cons_self, ih fun d hd => h d (List.mem_cons_of_mem _ hd),
      List.length_cons]
    omega

private theorem byteCount_spelling (u : Uuid) : byteCount u.spelling = 36 := by
  have bytes : ∀ c ∈ u.spelling, c.utf8Size = 1 := by
    intro c hc
    rcases mem_hyphenate hc with rfl | hc
    · rfl
    · obtain ⟨ds, shape, -, -, -, below⟩ := exists_digits u
      rw [shape] at hc
      obtain ⟨d, hd, rfl⟩ := List.mem_map.1 hc
      exact utf8Size_digitChar d (below d hd)
  have length := length_hyphenate (show groups ≠ [] by decide) (length_digits u)
  rw [length_digits u] at length
  rw [byteCount_eq_length bytes]
  exact Nat.succ.inj length

private theorem read?_spelling (u : Uuid) : read? u.spelling = some u := by
  have digits : unhyphenate groups u.spelling = some u.digits :=
    unhyphenate_hyphenate (by decide) (length_digits u)
  have part : groupedPart? u.spelling = some u.spelling := by
    simp only [groupedPart?, byteCount_spelling]
  simp only [read?, byteCount_spelling, Nat.reduceEqDiff, ↓reduceIte, part, Option.bind_eq_bind,
    Option.bind_some, grouped, digits, ofDigits_digits]

/-- The first group of digits ends at a hyphen. -/
theorem hyphen_mem_text (u : Uuid) : '-' ∈ u.text.toList := by
  have split :
      u.spelling = u.digits.take 8 ++ '-' :: hyphenate [4, 4, 4, 12] (u.digits.drop 8) := rfl
  rw [text, String.toList_ofList, split]
  exact List.mem_append_right _ List.mem_cons_self

theorem parse_text (u : Uuid) : parse u.text = .ok u := by
  simp only [parse, text, String.toList_ofList, read?_spelling]

theorem text_inj {u v : Uuid} : u.text = v.text ↔ u = v := by
  constructor
  · intro same
    have parsed := u.parse_text
    rw [same, v.parse_text] at parsed
    cases parsed
    rfl
  · rintro rfl
    rfl

end EventLineage.Uuid
