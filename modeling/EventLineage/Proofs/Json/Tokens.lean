import EventLineage.Json.Printer
import EventLineage.Json.Reader
import EventLineage.Proofs.Text.Digits

/-! # Texts and integers are read back from their spelling

A text ends with its quote, so anything may follow it. A number has no end of its own: it is read
back where nothing follows it, or something that ends a value. -/
namespace EventLineage.Json
open Text

/-- What may follow a value: nothing, or what stands behind it in a list or an object. -/
def Delimited (rest : List Char) : Prop := ∀ c ∈ rest.head?, c = ',' ∨ c = ']' ∨ c = '}'

theorem delimited_nil : Delimited [] := by
  intro c hc
  cases hc

theorem delimited_cons {c : Char} (h : c = ',' ∨ c = ']' ∨ c = '}') (rest : List Char) :
    Delimited (c :: rest) := by
  intro d hd
  cases hd
  exact h

private theorem Delimited.not_digit {rest : List Char} (h : Delimited rest) :
    ∀ c ∈ rest.head?, isDigit c = false := by
  intro c hc
  rcases h c hc with rfl | rfl | rfl <;> decide

theorem skipGaps_cons {c : Char} (h : isGap c = false) (cs : List Char) :
    skipGaps (c :: cs) = c :: cs := by
  simp [skipGaps, h]

/-! ## Texts -/

private theorem fourDigits_padTo {n : Nat} (lt : n < 256) (rest : List Char) :
    fourDigits ('0' :: '0' :: (padTo 2 (hexadecimal n) ++ rest)) = .ok (n, rest) := by
  obtain ⟨ds, -, value, length, shape, below⟩ := exists_hexadecimal_padTo (show 0 < 2 by omega) lt
  rw [shape]
  match ds, length with
  | [a, b], _ =>
    have first := hexValue_digitChar a (below a (by simp))
    have second := hexValue_digitChar b (below b (by simp))
    have digits : ['0', '0', digitChar a, digitChar b].mapM hexValue = some [0, 0, a, b] := by
      have zero : hexValue '0' = some 0 := by decide
      simp only [List.mapM_cons, zero, first, second]
      rfl
    have whole : valueOf 16 [0, 0, a, b] = n := by
      rw [← value]
      rfl
    simp only [List.map_cons, List.map_nil, List.cons_append, List.nil_append, fourDigits,
      digits, whole]

theorem toNat_lt_of_control {c : Char} (h : c < ' ') : c.toNat < 32 := h

private theorem numberedChar_control {c : Char} (h : c < ' ') (rest : List Char) :
    numberedChar ('0' :: '0' :: (padTo 2 (hexadecimal c.toNat) ++ rest)) = .ok (c, rest) := by
  have small := toNat_lt_of_control h
  have low : isLowSurrogate c.toNat = false := by
    simp only [isLowSurrogate, Bool.and_eq_false_iff, decide_eq_false_iff_not]
    omega
  have high : isHighSurrogate c.toNat = false := by
    simp only [isHighSurrogate, Bool.and_eq_false_iff, decide_eq_false_iff_not]
    omega
  simp only [numberedChar, fourDigits_padTo (show c.toNat < 256 by omega), bind, Except.bind, low,
    high, Bool.false_eq_true, ↓reduceIte, Char.ofNat_toNat]

/-- A character is escaped by a letter or by its number, or stands for itself. -/
theorem escaped_cases (c : Char) :
    (∃ letter, escaped c = ['\\', letter] ∧ letter ≠ 'u' ∧ letterEscape? letter = some c) ∨
    (c < ' ' ∧ escaped c = '\\' :: 'u' :: '0' :: '0' :: padTo 2 (hexadecimal c.toNat)) ∨
    (c ≠ '"' ∧ c ≠ '\\' ∧ ¬c < ' ' ∧ escaped c = [c]) := by
  unfold escaped
  by_cases control : c < ' '
  · repeat' split
    all_goals first
      | exact .inl ⟨_, rfl, by decide, by subst c; rfl⟩
      | exact .inr (.inl ⟨control, rfl⟩)
  · repeat' split
    all_goals first
      | exact .inl ⟨_, rfl, by decide, by subst c; rfl⟩
      | exact .inr (.inr ⟨by assumption, by assumption, control, rfl⟩)

/-- Each character is read back from its escaped form in one turn. -/
theorem textTail_escaped (fuel : Nat) (acc : List Char) (c : Char) (rest : List Char) :
    textTail (fuel + 1) acc (escaped c ++ rest) = textTail fuel (c :: acc) rest := by
  have notQuote : '\\' ≠ '"' := by decide
  rcases escaped_cases c with
    ⟨letter, shape, notU, stands⟩ | ⟨control, shape⟩ | ⟨quote, backslash, control, shape⟩
  · have read : escapedChar (letter :: rest) = .ok (c, rest) := by
      unfold escapedChar
      split
      · rename_i nil
        cases nil
      · rename_i u
        exact absurd (List.cons.inj u).1 notU
      · rename_i d cs _ cons
        cases cons
        rw [stands]
    simp only [shape, List.cons_append, List.nil_append, textTail, notQuote, ↓reduceIte, read, bind,
      Except.bind]
  · have read := numberedChar_control control rest
    simp only [shape, List.cons_append, textTail, notQuote, ↓reduceIte, escapedChar, read, bind,
      Except.bind]
  · simp only [shape, List.cons_append, List.nil_append, textTail, quote, backslash, control,
      ↓reduceIte]

private theorem textTail_flatMap_escaped {fuel : Nat} (cs acc rest : List Char)
    (enough : cs.length < fuel) :
    textTail fuel acc (cs.flatMap escaped ++ '"' :: rest) =
      .ok (String.ofList (acc.reverse ++ cs), rest) := by
  induction cs generalizing fuel acc with
  | nil =>
    obtain ⟨fuel, rfl⟩ : ∃ n, fuel = n + 1 := ⟨fuel - 1, by omega⟩
    simp [textTail]
  | cons c cs ih =>
    simp only [List.length_cons] at enough
    obtain ⟨fuel, rfl⟩ : ∃ n, fuel = n + 1 := ⟨fuel - 1, by omega⟩
    rw [List.flatMap_cons, List.append_assoc, textTail_escaped, ih (c :: acc) (by omega)]
    simp

private theorem length_le_flatMap_escaped (cs : List Char) :
    cs.length ≤ (cs.flatMap escaped).length := by
  induction cs with
  | nil => simp
  | cons c cs ih =>
    have one : 1 ≤ (escaped c).length := by
      rcases escaped_cases c with ⟨letter, shape, -, -⟩ | ⟨-, shape⟩ | ⟨-, -, -, shape⟩ <;>
        simp [shape]
    rw [List.flatMap_cons, List.length_append, List.length_cons]
    omega

theorem readText_escaped (s : String) (rest : List Char) :
    readText (s.toList.flatMap escaped ++ '"' :: rest) = .ok (s, rest) := by
  have length := length_le_flatMap_escaped s.toList
  rw [readText, textTail_flatMap_escaped]
  · simp
  · simp only [List.length_append, List.length_cons]
    omega

theorem quote_append (s : String) (rest : List Char) :
    quote s ++ rest = '"' :: (s.toList.flatMap escaped ++ '"' :: rest) := by
  simp [quote]

/-! ## Integers -/

private theorem le_foldl_digits (ds : List Nat) (v : Nat) :
    v ≤ ds.foldl (fun n d => 10 * n + d) v := by
  induction ds generalizing v with
  | nil => exact Nat.le_refl v
  | cons d ds ih =>
    have := ih (10 * v + d)
    simp only [List.foldl_cons]
    omega

/-- No digit is dropped as long as the number fits in 64 bits. -/
theorem foldl_push {ds : List Nat} (below : ∀ d ∈ ds, d < 10) {v : Nat}
    (fits : ds.foldl (fun n d => 10 * n + d) v < UInt64.size) :
    (ds.map digitChar).foldl Significand.push ⟨v, 0⟩ = ⟨ds.foldl (fun n d => 10 * n + d) v, 0⟩ := by
  induction ds generalizing v with
  | nil => rfl
  | cons d ds ih =>
    have digit := (digit_digitChar d (below d List.mem_cons_self)).2
    have more := le_foldl_digits ds (10 * v + d)
    simp only [List.foldl_cons] at fits
    have here : v * 10 + d < UInt64.size := by omega
    have swap : v * 10 + d = 10 * v + d := by omega
    have push : Significand.push ⟨v, 0⟩ (digitChar d) = ⟨10 * v + d, 0⟩ := by
      simp only [Significand.push, digit, true_and]
      rw [if_pos here, swap]
    rw [List.map_cons, List.foldl_cons, List.foldl_cons, push]
    exact ih (fun e he => below e (List.mem_cons_of_mem _ he)) fits

private theorem numeral_zero (isNegative : Bool) {rest : List Char} (h : Delimited rest) :
    numeral isNegative ('0' :: rest) = integerOrMore isNegative ⟨0, 0⟩ rest := by
  have starts : startsWithDigit rest = false := by
    cases rest with
    | nil => rfl
    | cons c rest => exact h.not_digit c rfl
  simp only [numeral, starts, Bool.false_eq_true, ↓reduceIte]

/-- Digits that do not start with a zero are read to their end. -/
theorem numeral_digits (isNegative : Bool) {c : Char} {cs : List Char}
    (digits : ∀ d ∈ c :: cs, isDigit d = true) (notZero : c ≠ '0') {rest : List Char}
    (h : Delimited rest) :
    numeral isNegative (c :: cs ++ rest) =
      integerOrMore isNegative (Significand.ofDigits 0 (c :: cs)) rest := by
  have first := digits c List.mem_cons_self
  have taken := takeWhile_isDigit_append digits h.not_digit
  have dropped := dropWhile_isDigit_append digits h.not_digit
  rw [List.cons_append] at taken dropped ⊢
  rw [List.dropWhile_cons_of_pos first] at dropped
  unfold numeral
  split
  · rename_i nil
    cases nil
  · rename_i zero
    exact absurd (List.cons.inj zero).1 notZero
  · rename_i d ds _ cons
    cases cons
    rw [if_pos first, taken, dropped]

private theorem numeral_decimal (isNegative : Bool) {n : Nat} (fits : n < UInt64.size)
    {rest : List Char} (h : Delimited rest) :
    numeral isNegative (decimal n ++ rest) = integerOrMore isNegative ⟨n, 0⟩ rest := by
  obtain ⟨ds, eq, spells⟩ := exists_spells_decimal n
  have value := spells.value
  rcases spells.start with zero | ⟨d, others, shape, ne⟩
  · have none : n = 0 := by
      rw [← value, zero]
      rfl
    rw [eq, zero, none]
    exact numeral_zero isNegative h
  · have notZero : digitChar d ≠ '0' := by
      intro same
      have back := (digit_digitChar d (spells.below d (by simp [shape]))).2
      rw [same] at back
      exact ne back.symm
    have whole : Significand.ofDigits 0 (ds.map digitChar) = ⟨n, 0⟩ := by
      have pushed := foldl_push (v := 0) spells.below (by
        rw [← value] at fits
        exact fits)
      rw [← value]
      exact pushed
    have digits := isDigit_of_mem_map spells.below
    rw [eq, ← whole]
    rw [shape, List.map_cons] at digits ⊢
    exact numeral_digits isNegative digits notZero h

private theorem integerOrMore_delimited (isNegative : Bool) (n : Nat) {rest : List Char}
    (h : Delimited rest) :
    integerOrMore isNegative ⟨n, 0⟩ rest =
      if isNegative then
        match Number.ofNegated? n with
        | some n => .ok (n, rest)
        | none => floatNumber true n 0 rest
      else
        match Number.ofNat? n with
        | some n => .ok (n, rest)
        | none => floatNumber false n 0 rest := by
  have noExponent : ¬(rest.head? = some 'e' ∨ rest.head? = some 'E' ∨ 0 ≠ 0) := by
    rintro (e | e | ne)
    · have := h _ e
      simp at this
    · have := h _ e
      simp at this
    · exact ne rfl
  unfold integerOrMore
  split
  · have := h '.' rfl
    simp at this
  · exact if_neg noExponent

theorem numeral_natural (n : Fin UInt64.size) {rest : List Char} (h : Delimited rest) :
    numeral false (decimal n.val ++ rest) = .ok (.natural n, rest) := by
  have read : Number.ofNat? n.val = some (.natural n) := by
    simp [Number.ofNat?, n.isLt]
  rw [numeral_decimal false n.isLt h, integerOrMore_delimited false _ h]
  simp only [Bool.false_eq_true, ↓reduceIte, read]

theorem numeral_negative (n : Fin (UInt64.size / 2)) {rest : List Char} (h : Delimited rest) :
    numeral true (decimal (n.val + 1) ++ rest) = .ok (.negative n, rest) := by
  have fits : n.val + 1 < UInt64.size := by
    have := n.isLt
    simp only [UInt64.size] at *
    omega
  have read : Number.ofNegated? (n.val + 1) = some (.negative n) := by
    simp [Number.ofNegated?, n.isLt]
  rw [numeral_decimal true fits h, integerOrMore_delimited true _ h]
  simp only [↓reduceIte, read]

end EventLineage.Json
