import EventLineage.Text.Digits

/-! # Numbers are read back from their digits

The digits written for a number have no zero in front, unless the number is zero. They give back the
number, in decimal and in hexadecimal, also behind the zeros that fill them up to a width. -/
namespace EventLineage.Text

theorem digit_digitChar :
    ∀ d < 10, isDigit (digitChar d) = true ∧ digitValue (digitChar d) = d := by
  decide

theorem hexValue_digitChar : ∀ d < 16, hexValue (digitChar d) = some d := by
  decide

theorem valueOf_lt {base : Nat} {ds : List Nat} (below : ∀ d ∈ ds, d < base) :
    valueOf base ds < Nat.pow base ds.length := by
  have fold (n : Nat) :
      ds.foldl (fun n d => base * n + d) n < (n + 1) * Nat.pow base ds.length := by
    induction ds generalizing n with
    | nil =>
      show n < (n + 1) * 1
      omega
    | cons d ds ih =>
      have rest := ih (fun e he => below e (List.mem_cons_of_mem _ he)) (base * n + d)
      have first : base * n + d + 1 ≤ base * (n + 1) := by
        have := below d List.mem_cons_self
        rw [Nat.mul_add]
        omega
      calc ds.foldl (fun n d => base * n + d) (base * n + d)
        _ < (base * n + d + 1) * Nat.pow base ds.length := rest
        _ ≤ base * (n + 1) * Nat.pow base ds.length := Nat.mul_le_mul_right _ first
        _ = (n + 1) * Nat.pow base (ds.length + 1) := by
          show _ = (n + 1) * (Nat.pow base ds.length * base)
          rw [Nat.mul_comm _ base, Nat.mul_left_comm, Nat.mul_assoc]
  have all := fold 0
  rw [Nat.zero_add, Nat.one_mul] at all
  exact all

private theorem valueOf_zeros_append (base n : Nat) (ds : List Nat) :
    valueOf base (List.replicate n 0 ++ ds) = valueOf base ds := by
  induction n with
  | zero => rfl
  | succ n ih => simpa [valueOf, List.replicate_succ] using ih

/-! ## Digits of a number -/

/-- Digits that spell a number with no zero in front. -/
structure Spells (base n : Nat) (ds : List Nat) : Prop where
  below : ∀ d ∈ ds, d < base
  value : valueOf base ds = n
  start : ds = [0] ∨ ∃ d rest, ds = d :: rest ∧ d ≠ 0
  short : ∀ k, 0 < k → n < Nat.pow base k → ds.length ≤ k

private theorem spells_singleton {base n : Nat} (h : n < base) : Spells base n [n] where
  below d hd := by
    rw [List.mem_singleton.1 hd]
    exact h
  value := by simp [valueOf]
  start := by
    by_cases zero : n = 0
    · exact .inl (by rw [zero])
    · exact .inr ⟨n, [], rfl, zero⟩
  short k hk _ := hk

theorem Spells.push {base n : Nat} {ds : List Nat} (h : Spells base (n / base) ds)
    (large : base ≤ n) (positive : 0 < base) : Spells base n (ds ++ [n % base]) where
  below d hd := by
    rcases List.mem_append.1 hd with hd | hd
    · exact h.below d hd
    · rw [List.mem_singleton.1 hd]
      exact Nat.mod_lt n positive
  value := by
    rw [valueOf_append_singleton, h.value]
    exact Nat.div_add_mod n base
  start := by
    rcases h.start with zero | ⟨d, rest, eq, ne⟩
    · have value := h.value
      have quotient : 0 < n / base := Nat.div_pos large positive
      rw [zero] at value
      simp only [valueOf, List.foldl_cons, List.foldl_nil] at value
      omega
    · exact .inr ⟨d, rest ++ [n % base], by rw [eq]; rfl, ne⟩
  short k hk lt := by
    obtain ⟨k, rfl⟩ : ∃ j, k = j + 1 := ⟨k - 1, by omega⟩
    have quotient : n / base < Nat.pow base k := by
      apply Nat.div_lt_of_lt_mul
      rw [Nat.mul_comm]
      exact lt
    have many : 0 < k := by
      refine Nat.pos_of_ne_zero fun zero => ?_
      rw [zero] at quotient
      have := Nat.div_pos large positive
      simp only [Nat.pow_zero, Nat.pow_eq] at quotient
      omega
    have := h.short k many quotient
    simp only [List.length_append, List.length_singleton]
    omega

/-- The induction is on the bound; each step takes the last digit off the number. -/
theorem exists_spells_digitsOnto {base : Nat} (hb : 2 ≤ base) {fuel n : Nat} (enough : n < fuel)
    (tail : List Char) :
    ∃ ds, digitsOnto base fuel n tail = ds.map digitChar ++ tail ∧ Spells base n ds := by
  induction fuel generalizing n tail with
  | zero => omega
  | succ fuel ih =>
    simp only [digitsOnto]
    by_cases small : n < base
    · rw [if_pos small]
      exact ⟨[n], rfl, spells_singleton small⟩
    · rw [if_neg small]
      have less : n / base < n := Nat.div_lt_self (by omega) (by omega)
      obtain ⟨ds, eq, spells⟩ := ih (by omega : n / base < fuel) (digitChar (n % base) :: tail)
      refine ⟨ds ++ [n % base], ?_, spells.push (by omega) (by omega)⟩
      rw [eq]
      simp

theorem exists_spells_decimal (n : Nat) : ∃ ds, decimal n = ds.map digitChar ∧ Spells 10 n ds := by
  obtain ⟨ds, eq, spells⟩ := exists_spells_digitsOnto (show 2 ≤ 10 by omega) (Nat.lt_succ_self n) []
  exact ⟨ds, by rw [decimal, eq, List.append_nil], spells⟩

private theorem exists_spells_hexadecimal (n : Nat) :
    ∃ ds, hexadecimal n = ds.map digitChar ∧ Spells 16 n ds := by
  obtain ⟨ds, eq, spells⟩ := exists_spells_digitsOnto (show 2 ≤ 16 by omega) (Nat.lt_succ_self n) []
  exact ⟨ds, by rw [hexadecimal, eq, List.append_nil], spells⟩

/-! ## Decimal digits -/

theorem isDigit_of_mem_map {ds : List Nat} (below : ∀ d ∈ ds, d < 10) :
    ∀ c ∈ ds.map digitChar, isDigit c = true := by
  intro c hc
  obtain ⟨d, hd, rfl⟩ := List.mem_map.1 hc
  exact (digit_digitChar d (below d hd)).1

private theorem map_digitValue {ds : List Nat} (below : ∀ d ∈ ds, d < 10) :
    (ds.map digitChar).map digitValue = ds := by
  rw [List.map_map]
  conv => rhs; rw [← List.map_id ds]
  exact List.map_congr_left fun d hd => (digit_digitChar d (below d hd)).2

theorem isDigit_of_mem_decimal (n : Nat) : ∀ c ∈ decimal n, isDigit c = true := by
  obtain ⟨ds, eq, spells⟩ := exists_spells_decimal n
  rw [eq]
  exact isDigit_of_mem_map spells.below

theorem decimal_ne_nil (n : Nat) : decimal n ≠ [] := by
  obtain ⟨ds, eq, spells⟩ := exists_spells_decimal n
  rw [eq]
  rcases spells.start with zero | ⟨d, rest, shape, -⟩
  · simp [zero]
  · simp [shape]

theorem valueOf_decimal (n : Nat) : valueOf 10 ((decimal n).map digitValue) = n := by
  obtain ⟨ds, eq, spells⟩ := exists_spells_decimal n
  rw [eq, map_digitValue spells.below]
  exact spells.value

private theorem length_decimal_le {n k : Nat} (hk : 0 < k) (lt : n < Nat.pow 10 k) :
    (decimal n).length ≤ k := by
  obtain ⟨ds, eq, spells⟩ := exists_spells_decimal n
  rw [eq, List.length_map]
  exact spells.short k hk lt

/-! ## Digits filled up with zeros -/

theorem length_padTo (width : Nat) (cs : List Char) :
    (padTo width cs).length = max width cs.length := by
  simp only [padTo, zeros, List.length_append, List.length_replicate]
  omega

theorem isDigit_of_mem_padded (width n : Nat) : ∀ c ∈ padded width n, isDigit c = true := by
  intro c hc
  rcases List.mem_append.1 hc with hc | hc
  · rw [List.eq_of_mem_replicate hc]
    rfl
  · exact isDigit_of_mem_decimal n c hc

theorem valueOf_padded (width n : Nat) : valueOf 10 ((padded width n).map digitValue) = n := by
  have zeros : (zeros (width - (decimal n).length)).map digitValue =
      List.replicate (width - (decimal n).length) 0 := by
    simp only [Text.zeros, List.map_replicate]
    rfl
  rw [padded, padTo, List.map_append, zeros, valueOf_zeros_append]
  exact valueOf_decimal n

theorem length_padded {width n : Nat} (hw : 0 < width) (lt : n < Nat.pow 10 width) :
    (padded width n).length = width := by
  have := length_decimal_le hw lt
  rw [padded, length_padTo]
  omega

theorem padded_ne_nil (width n : Nat) : padded width n ≠ [] := by
  intro nil
  exact decimal_ne_nil n (List.append_eq_nil_iff.1 nil).2

/-! ## Hexadecimal digits -/

private theorem mapM_hexValue {ds : List Nat} (below : ∀ d ∈ ds, d < 16) :
    (ds.map digitChar).mapM hexValue = some ds := by
  induction ds with
  | nil => rfl
  | cons d rest ih =>
    have first := hexValue_digitChar d (below d List.mem_cons_self)
    have others := ih fun d hd => below d (List.mem_cons_of_mem _ hd)
    simp only [List.map_cons, List.mapM_cons, first, others]
    rfl

/-- The digits of a number are read back, and fill the width if the number is small enough. -/
theorem exists_hexadecimal_padTo {width n : Nat} (hw : 0 < width) (lt : n < Nat.pow 16 width) :
    ∃ ds, (padTo width (hexadecimal n)).mapM hexValue = some ds ∧ valueOf 16 ds = n ∧
      ds.length = width ∧ padTo width (hexadecimal n) = ds.map digitChar ∧ ∀ d ∈ ds, d < 16 := by
  obtain ⟨ds, eq, spells⟩ := exists_spells_hexadecimal n
  have short := spells.short width hw lt
  have shape : padTo width (hexadecimal n) =
      (List.replicate (width - ds.length) 0 ++ ds).map digitChar := by
    rw [padTo, eq, List.map_append, List.length_map, zeros, List.map_replicate]
    rfl
  have below : ∀ d ∈ List.replicate (width - ds.length) 0 ++ ds, d < 16 := by
    intro d hd
    rcases List.mem_append.1 hd with hd | hd
    · rw [List.eq_of_mem_replicate hd]
      omega
    · exact spells.below d hd
  refine ⟨_, ?_, ?_, ?_, shape, below⟩
  · rw [shape]
    exact mapM_hexValue below
  · rw [valueOf_zeros_append]
    exact spells.value
  · simp only [List.length_append, List.length_replicate]
    omega

/-! ## Digits in front of something else -/

theorem takeWhile_isDigit_append {ds rest : List Char} (digits : ∀ c ∈ ds, isDigit c = true)
    (stop : ∀ c ∈ rest.head?, isDigit c = false) : (ds ++ rest).takeWhile isDigit = ds := by
  rw [List.takeWhile_append_of_pos digits]
  cases rest with
  | nil => simp
  | cons c rest => simp [stop c rfl]

theorem dropWhile_isDigit_append {ds rest : List Char} (digits : ∀ c ∈ ds, isDigit c = true)
    (stop : ∀ c ∈ rest.head?, isDigit c = false) : (ds ++ rest).dropWhile isDigit = rest := by
  rw [List.dropWhile_append_of_pos digits]
  cases rest with
  | nil => rfl
  | cons c rest => simp [stop c rfl]

end EventLineage.Text
