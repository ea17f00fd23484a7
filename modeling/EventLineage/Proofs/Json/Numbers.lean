import EventLineage.Json.Printer
import EventLineage.Json.Reader
import EventLineage.Proofs.Text.Digits

/-! # How far a number reaches in a text

A reader of numbers takes characters of numbers and nothing else, whether or not it takes all of
them, and a number is written with such characters only. -/
namespace EventLineage.Json
open Text

/-- The characters that numbers are made of. -/
def inNumeral (c : Char) : Bool :=
  isDigit c || c == '-' || c == '+' || c == '.' || c == 'e' || c == 'E'

def Numeric (cs : List Char) : Prop := ∀ c ∈ cs, inNumeral c = true

private theorem numeric_nil : Numeric [] := fun _ hc => absurd hc List.not_mem_nil

theorem Numeric.cons {c : Char} {cs : List Char} (hc : inNumeral c = true) (h : Numeric cs) :
    Numeric (c :: cs) :=
  List.forall_mem_cons.2 ⟨hc, h⟩

theorem Numeric.append {cs cs' : List Char} (h : Numeric cs) (h' : Numeric cs') :
    Numeric (cs ++ cs') :=
  List.forall_mem_append.2 ⟨h, h'⟩

/-- There are only characters of numbers from one place of a text to another. -/
def Passes (cs left : List Char) : Prop := ∃ used, used ++ left = cs ∧ Numeric used

namespace Passes

theorem refl (cs : List Char) : Passes cs cs := ⟨[], rfl, numeric_nil⟩

theorem trans {cs left last : List Char} (h : Passes cs left) (h' : Passes left last) :
    Passes cs last := by
  obtain ⟨used, rfl, all⟩ := h
  obtain ⟨used', rfl, all'⟩ := h'
  exact ⟨used ++ used', List.append_assoc _ _ _, all.append all'⟩

theorem cons {c : Char} {cs left : List Char} (hc : inNumeral c = true) (h : Passes cs left) :
    Passes (c :: cs) left := by
  obtain ⟨used, rfl, all⟩ := h
  exact ⟨c :: used, rfl, all.cons hc⟩

end Passes

private theorem inNumeral_of_isDigit {c : Char} (h : isDigit c = true) : inNumeral c = true := by
  simp only [inNumeral, h, Bool.true_or]

private theorem passes_dropWhile (cs : List Char) : Passes cs (cs.dropWhile isDigit) :=
  ⟨cs.takeWhile isDigit, List.takeWhile_append_dropWhile,
    fun c hc => inNumeral_of_isDigit (List.all_eq_true.1 List.all_takeWhile c hc)⟩

private theorem passes_drop (cs : List Char) :
    Passes cs (cs.drop (cs.takeWhile isDigit).length) := by
  have same : (cs.takeWhile isDigit ++ cs.dropWhile isDigit).drop (cs.takeWhile isDigit).length =
      cs.dropWhile isDigit := List.drop_left
  rw [List.takeWhile_append_dropWhile] at same
  rw [same]
  exact passes_dropWhile cs

private theorem passes_exponentDigits (n : Nat) (cs : List Char) :
    Passes cs (exponentDigits n cs).2 := by
  induction cs generalizing n with
  | nil => exact .refl []
  | cons c cs ih =>
    simp only [exponentDigits]
    split
    · rename_i digit
      split
      · exact .cons (inNumeral_of_isDigit digit) (ih _)
      · exact .cons (inNumeral_of_isDigit digit) (.refl cs)
    · exact .refl _

/-! ## Numbers that are read -/

section Readers

variable {isNegative : Bool} {significand : Nat} {power : Int} {s : Significand}
  {cs left : List Char} {n : Number}

private theorem ok_of_ite_error {p : Prop} [Decidable p] {stop : Stop} {r : Except Stop α} {a : α}
    (h : (if p then .error stop else r) = .ok a) : r = .ok a := by
  split at h
  · cases h
  · exact h

private theorem left_floatNumber
    (h : floatNumber isNegative significand power cs = .ok (n, left)) : left = cs := by
  simp only [floatNumber] at h
  split at h <;> cases h
  rfl

private theorem passes_exponentPart
    (h : exponentPart isNegative significand power cs = .ok (n, left)) : Passes cs left := by
  simp only [exponentPart] at h
  split at h
  · cases h
  · rename_i c rest signed
    have sign : Passes cs (c :: rest) := by
      rw [← signed]
      split
      · exact .cons (by decide) (.refl _)
      · exact .cons (by decide) (.refl _)
      · exact .refl _
    split at h
    · rename_i digit
      refine sign.trans (.cons (inNumeral_of_isDigit digit) ?_)
      have digits := passes_exponentDigits (digitValue c) rest
      split at h
      · rename_i read
        rw [left_floatNumber h]
        rw [read] at digits
        exact digits
      · rename_i read
        rw [read] at digits
        rw [left_floatNumber (ok_of_ite_error h)]
        exact digits.trans (passes_dropWhile _)
    · cases h

private theorem passes_exponentOrEnd
    (h : exponentOrEnd isNegative significand power cs = .ok (n, left)) : Passes cs left := by
  unfold exponentOrEnd at h
  split at h
  · exact .cons (by decide) (passes_exponentPart h)
  · exact .cons (by decide) (passes_exponentPart h)
  · rw [left_floatNumber h]
    exact .refl _

private theorem passes_fractionPart (h : fractionPart isNegative s cs = .ok (n, left)) :
    Passes cs left := by
  simp only [fractionPart] at h
  split at h
  · cases h
  · exact (passes_drop cs).trans (passes_exponentOrEnd h)

private theorem passes_integerOrMore (h : integerOrMore isNegative s cs = .ok (n, left)) :
    Passes cs left := by
  unfold integerOrMore at h
  split at h
  · exact .cons (by decide) (passes_fractionPart h)
  · split at h
    · exact passes_exponentOrEnd h
    · split at h
      · split at h
        · cases h
          exact .refl _
        · rw [left_floatNumber h]
          exact .refl _
      · split at h
        · cases h
          exact .refl _
        · rw [left_floatNumber h]
          exact .refl _

theorem passes_numeral (h : numeral isNegative cs = .ok (n, left)) : Passes cs left := by
  unfold numeral at h
  split at h
  · cases h
  · split at h
    · cases h
    · exact .cons (by decide) (passes_integerOrMore h)
  · split at h
    · rename_i digit
      exact .cons (inNumeral_of_isDigit digit) ((passes_dropWhile _).trans (passes_integerOrMore h))
    · cases h

end Readers

/-! ## Numbers that are written -/

private theorem numeric_decimal (m : Nat) : Numeric (decimal m) :=
  fun c hc => inNumeral_of_isDigit (isDigit_of_mem_decimal m c hc)

private theorem numeric_zeros (m : Nat) : Numeric (zeros m) := by
  intro c hc
  rw [List.eq_of_mem_replicate hc]
  decide

private theorem numeric_mantissaText {cs : List Char} (h : Numeric cs) :
    Numeric (Binary64.mantissaText cs) := by
  unfold Binary64.mantissaText
  split
  · exact h
  · exact h
  · obtain ⟨first, rest⟩ := List.forall_mem_cons.1 h
    exact .cons first (.cons (by decide) rest)

private theorem numeric_exponentText (k : Int) : Numeric (Binary64.exponentText k) := by
  have mark : Numeric (if k < 0 then ['e', '-'] else ['e', '+']) := by
    split
    · exact .cons (by decide) (.cons (by decide) numeric_nil)
    · exact .cons (by decide) (.cons (by decide) numeric_nil)
  exact mark.append (numeric_decimal _)

private theorem numeric_decimalText (d : Binary64.Decimal) : Numeric (Binary64.decimalText d) := by
  have digits := numeric_decimal d.digits
  simp only [Binary64.decimalText]
  split
  · have fraction : Numeric ['.', '0'] := .cons (by decide) (.cons (by decide) numeric_nil)
    exact (digits.append (numeric_zeros _)).append fraction
  · split
    · refine Numeric.append (fun c hc => digits c (List.mem_of_mem_take hc)) (.cons (by decide) ?_)
      exact fun c hc => digits c (List.mem_of_mem_drop hc)
    · split
      · exact .cons (by decide) (.cons (by decide) ((numeric_zeros _).append digits))
      · exact (numeric_mantissaText digits).append (numeric_exponentText _)

private theorem decimalText_ne_nil (d : Binary64.Decimal) : Binary64.decimalText d ≠ [] := by
  simp only [Binary64.decimalText]
  split
  · simp
  · split
    · simp
    · split
      · simp
      · simp [Binary64.exponentText, decimal_ne_nil]

theorem numeric_spelling (n : Number) : Numeric n.spelling := by
  cases n with
  | natural n => exact numeric_decimal _
  | negative n => exact .cons (by decide) (numeric_decimal _)
  | float x =>
    have sign : Numeric (if x.negative then ['-'] else []) := by
      split
      · exact .cons (by decide) numeric_nil
      · exact numeric_nil
    refine sign.append ?_
    split
    · exact .cons (by decide) (.cons (by decide) (.cons (by decide) numeric_nil))
    · exact numeric_decimalText _

theorem spelling_ne_nil (n : Number) : n.spelling ≠ [] := by
  cases n with
  | natural n => exact decimal_ne_nil _
  | negative n => exact List.cons_ne_nil _ _
  | float x =>
    refine List.append_ne_nil_of_right_ne_nil _ ?_
    split
    · exact List.cons_ne_nil _ _
    · exact decimalText_ne_nil _

end EventLineage.Json
