import EventLineage.Proofs.Text.Digits
import EventLineage.Text.Blank

/-! # Numerals with a sign and blanks around them

Decimal digits denote a number, with any zeros in front. What a numeral is does not depend on how it
is read: blanks, at most one plus sign, digits, and blanks again. A text that is read without the
blanks at its ends and without a plus sign gives a number if and only if it is a numeral, namely the
one denoted. -/
namespace EventLineage.Text

/-! ## Blanks -/

theorem toNat_of_isDigit {c : Char} (h : isDigit c = true) : 48 ≤ c.toNat ∧ c.toNat ≤ 57 := by
  simp only [isDigit, Bool.and_eq_true, decide_eq_true_eq] at h
  exact h

theorem isBlank_of_isDigit {c : Char} (h : isDigit c = true) : isBlank c = false := by
  obtain ⟨low, high⟩ := toNat_of_isDigit h
  refine Bool.eq_false_iff.2 fun blank => ?_
  obtain ⟨r, hr, inside⟩ := inRanges_iff.1 blank
  simp only [blankRanges, List.mem_cons, List.not_mem_nil, or_false] at hr
  rcases hr with rfl | rfl | rfl | rfl | rfl | rfl | rfl | rfl | rfl | rfl <;>
    simp only at inside <;> omega

theorem trimStart_cons {c : Char} (h : isBlank c = false) (cs : List Char) :
    trimStart (c :: cs) = c :: cs := by
  simp [trimStart, h]

section Trim

variable {front body back cs : List Char}

private theorem exists_trimStart (cs : List Char) :
    ∃ front, cs = front ++ trimStart cs ∧ ∀ c ∈ front, isBlank c = true := by
  refine ⟨cs.takeWhile isBlank, List.takeWhile_append_dropWhile.symm, ?_⟩
  exact List.all_eq_true.1 List.all_takeWhile

private theorem trimStart_append (blank : ∀ c ∈ front, isBlank c = true) (rest : List Char) :
    trimStart (front ++ rest) = trimStart rest := List.dropWhile_append_of_pos blank

/-- What `trim` takes away is blank. -/
theorem exists_trim (cs : List Char) : ∃ front back, cs = front ++ trim cs ++ back ∧
    (∀ c ∈ front, isBlank c = true) ∧ ∀ c ∈ back, isBlank c = true := by
  obtain ⟨front, start, blankFront⟩ := exists_trimStart cs
  obtain ⟨back, tail, blankBack⟩ := exists_trimStart (trimStart cs).reverse
  refine ⟨front, back.reverse, ?_, blankFront, fun c hc => blankBack c (List.mem_reverse.1 hc)⟩
  have whole : trimStart cs = trim cs ++ back.reverse := by
    rw [trim, ← List.reverse_append, ← tail, List.reverse_reverse]
  rw [List.append_assoc, ← whole, ← start]

/-- It takes away all blanks around something that neither starts nor ends with one. -/
theorem trim_append (blankFront : ∀ c ∈ front, isBlank c = true)
    (blankBack : ∀ c ∈ back, isBlank c = true) (ne : body ≠ [])
    (start : isBlank (body.head ne) = false) (last : isBlank (body.getLast ne) = false) :
    trim (front ++ body ++ back) = body := by
  have first : trimStart (front ++ body ++ back) = body ++ back := by
    rw [List.append_assoc, trimStart_append blankFront, ← List.cons_head_tail ne, List.cons_append,
      trimStart_cons start]
  have blankReversed : ∀ c ∈ back.reverse, isBlank c = true :=
    fun c hc => blankBack c (List.mem_reverse.1 hc)
  have second : trimStart body.reverse = body.reverse := by
    conv => lhs; rw [← List.dropLast_concat_getLast ne]
    conv => rhs; rw [← List.dropLast_concat_getLast ne]
    rw [List.reverse_append, List.reverse_singleton, List.singleton_append, trimStart_cons last]
  rw [trim, first, List.reverse_append, trimStart_append blankReversed, second,
    List.reverse_reverse]

end Trim

/-! ## Digits that denote a number -/

/-- Decimal digits denote a number: one digit denotes its value, and a digit behind others adds its
value to ten times what they denote. -/
inductive Denotes : List Char → Nat → Prop
  | digit {c : Char} (h : isDigit c = true) : Denotes [c] (digitValue c)
  | push {cs : List Char} {n : Nat} {c : Char} (front : Denotes cs n) (h : isDigit c = true) :
    Denotes (cs ++ [c]) (10 * n + digitValue c)

namespace Denotes

variable {cs : List Char} {n : Nat}

private theorem ne_nil (h : Denotes cs n) : cs ≠ [] := by
  cases h with
  | digit => exact List.cons_ne_nil _ _
  | push => exact List.append_ne_nil_of_right_ne_nil _ (List.cons_ne_nil _ _)

private theorem isDigit_of_mem (h : Denotes cs n) : ∀ c ∈ cs, isDigit c = true := by
  induction h with
  | digit h =>
    intro c hc
    rwa [List.mem_singleton.1 hc]
  | push front h ih =>
    intro c hc
    rcases List.mem_append.1 hc with hc | hc
    · exact ih c hc
    · rwa [List.mem_singleton.1 hc]

private theorem valueOf_eq (h : Denotes cs n) : valueOf 10 (cs.map digitValue) = n := by
  induction h with
  | digit h => simp [valueOf]
  | push front h ih => rw [List.map_append, List.map_singleton, valueOf_append_singleton, ih]

end Denotes

theorem denotes_valueOf {cs : List Char} (ne : cs ≠ []) (digits : ∀ c ∈ cs, isDigit c = true) :
    Denotes cs (valueOf 10 (cs.map digitValue)) := by
  -- Digits denote a number from the left, so the last one is split off.
  obtain ⟨front, last, rfl⟩ : ∃ front last, cs = front ++ [last] :=
    ⟨cs.dropLast, cs.getLast ne, (List.dropLast_concat_getLast ne).symm⟩
  have digit := digits last (List.mem_append_right _ (List.mem_singleton_self last))
  have others : ∀ c ∈ front, isDigit c = true := fun c hc => digits c (List.mem_append_left _ hc)
  rw [List.map_append, List.map_singleton, valueOf_append_singleton]
  cases hf : front with
  | nil =>
    have alone := Denotes.digit digit
    simpa [valueOf] using alone
  | cons c rest =>
    have shorter : front.length < (front ++ [last]).length := by simp
    rw [← hf]
    exact .push (denotes_valueOf (by rw [hf]; exact List.cons_ne_nil _ _) others) digit
termination_by cs.length

theorem natural?_eq_some_iff {cs : List Char} {n : Nat} : natural? cs = some n ↔ Denotes cs n := by
  unfold natural?
  split
  · rename_i h
    refine iff_of_false nofun fun denotes => ?_
    rcases h with empty | other
    · exact denotes.ne_nil (List.isEmpty_iff.1 empty)
    · exact other (List.all_eq_true.2 denotes.isDigit_of_mem)
  · rename_i h
    obtain ⟨notEmpty, digits⟩ := not_or.1 h
    rw [Option.some.injEq]
    constructor
    · rintro rfl
      refine denotes_valueOf (fun nil => notEmpty (List.isEmpty_iff.2 nil)) ?_
      exact List.all_eq_true.1 (Decidable.not_not.1 digits)
    · exact Denotes.valueOf_eq

/-! ## Numerals -/

/-- Blanks, at most one plus sign, digits that denote the number, and blanks. -/
def Numeral (cs : List Char) (n : Nat) : Prop :=
  ∃ front sign digits back,
    cs = front ++ (sign ++ digits) ++ back ∧ (∀ c ∈ front, isBlank c = true) ∧
    (∀ c ∈ back, isBlank c = true) ∧ (sign = [] ∨ sign = ['+']) ∧ Denotes digits n

private theorem exists_sign (cs : List Char) :
    ∃ sign, (sign = [] ∨ sign = ['+']) ∧ cs = sign ++ withoutPlus cs := by
  unfold withoutPlus
  split
  · exact ⟨['+'], .inr rfl, rfl⟩
  · exact ⟨[], .inl rfl, rfl⟩

private theorem withoutPlus_append {sign digits : List Char} {n : Nat}
    (signed : sign = [] ∨ sign = ['+']) (h : Denotes digits n) :
    withoutPlus (sign ++ digits) = digits := by
  rcases signed with rfl | rfl
  · unfold withoutPlus
    split
    · rename_i rest eq
      -- No digit is a plus sign, so this one does not stand in front of the digits.
      have digit := h.isDigit_of_mem '+'
        (by rw [show digits = '+' :: rest from eq]; exact List.mem_cons_self)
      exact absurd digit (by decide)
    · rfl
  · rfl

theorem numeral_iff {cs : List Char} {n : Nat} :
    Numeral cs n ↔ natural? (withoutPlus (trim cs)) = some n := by
  rw [natural?_eq_some_iff]
  constructor
  · rintro ⟨front, sign, digits, back, rfl, blankFront, blankBack, signed, denotes⟩
    have ne : sign ++ digits ≠ [] := List.append_ne_nil_of_right_ne_nil sign denotes.ne_nil
    have start : isBlank ((sign ++ digits).head ne) = false := by
      rcases signed with rfl | rfl
      · exact isBlank_of_isDigit (denotes.isDigit_of_mem _ (List.head_mem ne))
      · exact show isBlank '+' = false by decide
    have last : isBlank ((sign ++ digits).getLast ne) = false := by
      rw [List.getLast_append_of_ne_nil ne denotes.ne_nil]
      exact isBlank_of_isDigit (denotes.isDigit_of_mem _ (List.getLast_mem _))
    rw [trim_append blankFront blankBack ne start last, withoutPlus_append signed denotes]
    exact denotes
  · intro denotes
    obtain ⟨front, back, whole, blankFront, blankBack⟩ := exists_trim cs
    obtain ⟨sign, signed, split⟩ := exists_sign (trim cs)
    refine ⟨front, sign, withoutPlus (trim cs), back, ?_, blankFront, blankBack, signed, denotes⟩
    rw [← split]
    exact whole

end EventLineage.Text
