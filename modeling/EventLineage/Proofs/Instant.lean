import EventLineage.Instant
import EventLineage.Proofs.Text.Numerals

/-! # Instants are read back from their spelling

A spelling shows an instant faithfully if its date is in the calendar, its time is a time of day,
and a leap second stands at the end of a minute. -/
namespace EventLineage
open Text

/-! ## Dates -/

namespace Date

/-- The date is in the calendar. -/
structure Exists (d : Date) : Prop where
  year : inCalendar d.year = true
  month : 1 ≤ d.month ∧ d.month ≤ 12
  day : 1 ≤ d.day ∧ d.day ≤ monthLength d.year d.month

theorem ofParts?_eq_some_iff {y : Int} {m n : Nat} {d : Date} :
    ofParts? y m n = some d ↔ d.Exists ∧ d = ⟨y, m, n⟩ := by
  unfold ofParts?
  split
  · rename_i h
    obtain ⟨year, month1, month12, day1, dayLast⟩ := h
    simp only [Option.some.injEq]
    constructor
    · rintro rfl
      exact ⟨⟨year, ⟨month1, month12⟩, ⟨day1, dayLast⟩⟩, rfl⟩
    · rintro ⟨-, rfl⟩
      rfl
  · rename_i h
    constructor
    · intro none
      cases none
    · rintro ⟨⟨year, month, day⟩, rfl⟩
      exact absurd ⟨year, month.1, month.2, day.1, day.2⟩ h

end Date

namespace Instant

/-- The spelling shows the instant, and not another one. -/
structure Faithful (t : Instant) : Prop where
  date : Date.ofParts? t.date.year t.date.month t.date.day = some t.date
  second : t.second < 86400
  nano : t.nano < 2000000000
  leap : 1000000000 ≤ t.nano → t.second % 60 = 59

/-! ## Blanks -/

private theorem trimStart_digits {ds : List Char} (digits : ∀ c ∈ ds, isDigit c = true)
    (ne : ds ≠ []) (rest : List Char) : trimStart (ds ++ rest) = ds ++ rest := by
  cases ds with
  | nil => exact absurd rfl ne
  | cons d ds => exact trimStart_cons (isBlank_of_isDigit (digits d List.mem_cons_self)) _

/-! ## Numbers -/

private theorem number_of_takeWhile {most : Option Nat} {ds rest : List Char} (ne : ds ≠ [])
    (taken : (most.elim (ds ++ rest) fun n => (ds ++ rest).take n).takeWhile isDigit = ds)
    (small : valueOf 10 (ds.map digitValue) < numberLimit) :
    number most (ds ++ rest) = .ok (valueOf 10 (ds.map digitValue), rest) := by
  have filled : (ds ++ rest).isEmpty = false := by
    cases ds with
    | nil => exact absurd rfl ne
    | cons => rfl
  have some : ds.isEmpty = false := List.isEmpty_eq_false_iff.2 ne
  cases most with
  | none =>
    simp only [Option.elim] at taken
    simp only [number, taken, filled, some, Bool.false_eq_true, ↓reduceIte, small, List.drop_left]
  | some n =>
    simp only [Option.elim] at taken
    simp only [number, taken, filled, some, Bool.false_eq_true, ↓reduceIte, small, List.drop_left]

private theorem number_all {ds rest : List Char} (digits : ∀ c ∈ ds, isDigit c = true)
    (ne : ds ≠ []) (stop : ∀ c ∈ rest.head?, isDigit c = false)
    (small : valueOf 10 (ds.map digitValue) < numberLimit) :
    number none (ds ++ rest) = .ok (valueOf 10 (ds.map digitValue), rest) :=
  number_of_takeWhile ne (takeWhile_isDigit_append digits stop) small

/-- As many digits as are asked for, whatever follows them. -/
theorem number_exactly {k : Nat} {ds : List Char} (rest : List Char)
    (digits : ∀ c ∈ ds, isDigit c = true) (ne : ds ≠ []) (length : ds.length = k)
    (small : valueOf 10 (ds.map digitValue) < numberLimit) :
    number (some k) (ds ++ rest) = .ok (valueOf 10 (ds.map digitValue), rest) := by
  apply number_of_takeWhile ne _ small
  simp only [Option.elim, List.take_left' length]
  have all := takeWhile_isDigit_append digits
    (show ∀ c ∈ ([] : List Char).head?, isDigit c = false by simp)
  simpa using all

/-- At most as many digits as are asked for, with something else behind them. -/
theorem number_within {k : Nat} {ds rest : List Char} (digits : ∀ c ∈ ds, isDigit c = true)
    (ne : ds ≠ []) (length : ds.length ≤ k) (stop : ∀ c ∈ rest.head?, isDigit c = false)
    (small : valueOf 10 (ds.map digitValue) < numberLimit) :
    number (some k) (ds ++ rest) = .ok (valueOf 10 (ds.map digitValue), rest) := by
  apply number_of_takeWhile ne _ small
  simp only [Option.elim, List.take_append, List.take_of_length_le length]
  apply takeWhile_isDigit_append digits
  intro c hc
  cases rest with
  | nil => simp at hc
  | cons d rest =>
    cases hn : k - ds.length with
    | zero =>
      rw [hn] at hc
      cases hc
    | succ n =>
      rw [hn] at hc
      exact stop c hc

/-! ## Components -/

private theorem component_padded {low high n : Nat} (hl : low ≤ n) (hh : n ≤ high)
    (small : high < 100) (rest : List Char) :
    component low high (padded 2 n ++ rest) = .ok (n, rest) := by
  have digits := isDigit_of_mem_padded 2 n
  have ne := padded_ne_nil 2 n
  have length : (padded 2 n).length = 2 := length_padded (by omega) (show n < 100 by omega)
  have value := valueOf_padded 2 n
  have limit : valueOf 10 ((padded 2 n).map digitValue) < numberLimit := by
    rw [value, numberLimit]
    omega
  have read := number_exactly rest digits ne length limit
  rw [value] at read
  simp only [component, trimStart_digits digits ne, read]
  exact if_pos ⟨hl, hh⟩

private theorem mark_trimStart {c : Char} (h : isBlank c = false) (rest : List Char) :
    mark c (trimStart (c :: rest)) = .ok ((), rest) := by
  rw [trimStart_cons h]
  simp [mark]

private theorem yearPart_digits {ds : List Char} (digits : ∀ c ∈ ds, isDigit c = true)
    (ne : ds ≠ []) (rest : List Char) :
    yearPart (ds ++ rest) = (number (some 4) (ds ++ rest)).map fun p => ((p.1 : Int), p.2) := by
  have trimmed := trimStart_digits digits ne rest
  cases ds with
  | nil => exact absurd rfl ne
  | cons d ds =>
    have low := (toNat_of_isDigit (digits d List.mem_cons_self)).1
    simp only [yearPart, trimmed]
    split
    · rename_i minus
      cases minus
      exact absurd low (by decide)
    · rename_i plus
      cases plus
      exact absurd low (by decide)
    · cases number (some 4) (d :: ds ++ rest) <;> rfl

private theorem year_yearText {y : Int} (h : Date.inCalendar y = true) (rest : List Char) :
    year (Date.yearText y ++ '-' :: rest) = .ok (y, '-' :: rest) := by
  simp only [Date.inCalendar, Bool.and_eq_true, decide_eq_true_eq] at h
  have part : yearPart (Date.yearText y ++ '-' :: rest) = .ok (y, '-' :: rest) := by
    have stop : ∀ c ∈ ('-' :: rest).head?, isDigit c = false := by
      intro c hc
      cases hc
      decide
    simp only [Date.yearText]
    by_cases small : 0 ≤ y ∧ y ≤ 9999
    · rw [if_pos small]
      have length : (padded 4 y.toNat).length = 4 :=
        length_padded (by omega) (show y.toNat < 10000 by omega)
      have digits := isDigit_of_mem_padded 4 y.toNat
      have value := valueOf_padded 4 y.toNat
      have limit : valueOf 10 ((padded 4 y.toNat).map digitValue) < numberLimit := by
        rw [value, numberLimit]
        omega
      rw [yearPart_digits digits (padded_ne_nil _ _),
        number_exactly _ digits (padded_ne_nil _ _) length limit]
      simp only [Except.map, value, Int.toNat_of_nonneg small.1]
    · rw [if_neg small]
      have signed (n : Nat) (hn : n < 1000000) :
          number none (padded 4 n ++ '-' :: rest) = .ok (n, '-' :: rest) := by
        have value := valueOf_padded 4 n
        have limit : valueOf 10 ((padded 4 n).map digitValue) < numberLimit := by
          rw [value, numberLimit]
          omega
        have read := number_all (isDigit_of_mem_padded 4 n) (padded_ne_nil 4 n) stop limit
        rwa [value] at read
      by_cases positive : 0 ≤ y
      · rw [if_pos positive]
        have read := signed y.toNat (by omega)
        have plus : trimStart ('+' :: padded 4 y.toNat ++ '-' :: rest) =
            '+' :: (padded 4 y.toNat ++ '-' :: rest) :=
          trimStart_cons (by decide) _
        simp only [yearPart, plus, read, bind, Except.bind, Int.toNat_of_nonneg positive]
      · rw [if_neg positive]
        have read := signed y.natAbs (by omega)
        have minus : trimStart ('-' :: padded 4 y.natAbs ++ '-' :: rest) =
            '-' :: (padded 4 y.natAbs ++ '-' :: rest) :=
          trimStart_cons (by decide) _
        have value : -(y.natAbs : Int) = y := by omega
        simp only [yearPart, minus, read, bind, Except.bind, value]
  simp only [year, part, bind, Except.bind]
  exact if_pos (by omega)

private theorem nanoseconds_point {w n : Nat} (hw : 0 < w) (h9 : w ≤ 9) (lt : n < Nat.pow 10 w) :
    nanoseconds ('.' :: padded w n ++ ['Z']) = .ok (n * Nat.pow 10 (9 - w), ['Z']) := by
  have digits := isDigit_of_mem_padded w n
  have value := valueOf_padded w n
  have length := length_padded hw lt
  have le : Nat.pow 10 w ≤ Nat.pow 10 9 := Nat.pow_le_pow_right (by omega) h9
  have limit : valueOf 10 ((padded w n).map digitValue) < numberLimit := by
    rw [value]
    exact Nat.lt_of_lt_of_le (Nat.lt_of_lt_of_le lt le) (by decide)
  have stop : ∀ c ∈ ['Z'].head?, isDigit c = false := by
    intro c hc
    cases hc
    decide
  have read := number_within (k := 9) digits (padded_ne_nil w n) (by omega) stop limit
  rw [value] at read
  have used : (padded w n ++ ['Z']).length - ['Z'].length = w := by simp [length]
  simp only [List.cons_append, nanoseconds, read, bind, Except.bind, used]
  rfl

private theorem nanoseconds_fraction {n : Nat} (lt : n < 1000000000) :
    nanoseconds (fraction n ++ ['Z']) = .ok (n, ['Z']) := by
  simp only [fraction]
  by_cases zero : n = 0
  · rw [if_pos zero, zero]
    rfl
  · rw [if_neg zero]
    by_cases millis : n % 1000000 = 0
    · rw [if_pos millis, nanoseconds_point (by omega) (by omega) (show n / 1000000 < 1000 by omega)]
      have value : n / 1000000 * 1000000 = n := by omega
      exact congrArg (fun m => Except.ok (m, ['Z'])) value
    · rw [if_neg millis]
      by_cases micros : n % 1000 = 0
      · rw [if_pos micros, nanoseconds_point (by omega) (by omega)
          (show n / 1000 < 1000000 by omega)]
        have value : n / 1000 * 1000 = n := by omega
        exact congrArg (fun m => Except.ok (m, ['Z'])) value
      · rw [if_neg micros, nanoseconds_point (by omega) (by omega) lt]
        have value : n * 1 = n := Nat.mul_one n
        exact congrArg (fun m => Except.ok (m, ['Z'])) value

/-! ## Instants -/

/-- The components that the spelling of an instant shows. -/
def shown (t : Instant) : Parts where
  year := t.date.year
  month := t.date.month
  day := t.date.day
  hour := t.second / 3600
  minute := t.second / 60 % 60
  second := if t.nano < 1000000000 then t.second % 60 else t.second % 60 + 1
  nano := if t.nano < 1000000000 then t.nano else t.nano - 1000000000
  offset := 0

namespace Faithful

variable {t : Instant}

private theorem date_exists (h : t.Faithful) : t.date.Exists :=
  (Date.ofParts?_eq_some_iff.1 h.date).1

private theorem parts_spelling (h : t.Faithful) : parts t.spelling = .ok t.shown := by
  obtain ⟨calendar, ⟨month1, month12⟩, ⟨day1, dayLast⟩⟩ := h.date_exists
  have day31 : t.date.day ≤ 31 := by
    unfold Date.monthLength at dayLast
    split at dayLast <;> split at dayLast <;> omega
  have second := h.second
  have nano := h.nano
  have time : timeText t.second t.nano =
      padded 2 t.shown.hour ++ ':' :: padded 2 t.shown.minute ++ ':' :: padded 2 t.shown.second ++
        fraction t.shown.nano := by
    by_cases plain : t.nano < 1000000000 <;> simp only [timeText, shown, plain, ↓reduceIte]
  have second60 : t.shown.second ≤ 60 := by
    simp only [shown]
    split <;> omega
  have hour23 : t.shown.hour ≤ 23 := by
    simp only [shown]
    omega
  have minute59 : t.shown.minute ≤ 59 := by
    simp only [shown]
    omega
  have fractionRead : t.shown.nano < 1000000000 := by
    simp only [shown]
    split <;> omega
  have blankZ : trimStart ['Z'] = ['Z'] := by decide
  have separatorT (rest : List Char) : separator ('T' :: rest) = .ok ((), rest) := by rfl
  have offsetZ : offset ['Z'] = .ok (0, []) := by rfl
  simp only [spelling, Date.text, time, List.append_assoc, List.cons_append, parts,
    year_yearText calendar, bind, Except.bind, mark_trimStart (show isBlank '-' = false by decide),
    component_padded month1 month12 (by omega), component_padded day1 day31 (by omega), separatorT,
    component_padded (Nat.zero_le _) hour23 (by omega),
    mark_trimStart (show isBlank ':' = false by decide),
    component_padded (Nat.zero_le _) minute59 (by omega),
    component_padded (Nat.zero_le _) second60 (by omega), nanoseconds_fraction fractionRead, blankZ,
    offsetZ]
  rfl

/-- Components without an offset name the instant whose hours, minutes and seconds they are. -/
theorem ofParts_eq (h : t.Faithful) {p : Parts} (offset : p.offset = 0)
    (date : Date.ofParts? p.year p.month p.day = some t.date) (hour : p.hour = t.second / 3600)
    (minute : p.minute = t.second / 60 % 60)
    (time : (if p.second = 60 then (59, p.nano + 1000000000) else (p.second, p.nano)) =
      (t.second % 60, t.nano)) : ofParts p = .ok t := by
  have second := h.second
  have clock :
      ((t.second / 3600 * 3600 + t.second / 60 % 60 * 60 + t.second % 60 : Nat) : Int) - 0 =
        (t.second : Int) := by
    omega
  have positive : ¬(t.second : Int) < 0 := by omega
  have below : (t.second : Int) < 86400 := by omega
  simp only [ofParts, date, offset, time, hour, minute, clock, shift, if_neg positive, if_pos below]
  simp

private theorem ofParts_shown (h : t.Faithful) : ofParts t.shown = .ok t := by
  apply h.ofParts_eq rfl h.date rfl rfl
  by_cases plain : t.nano < 1000000000
  · have ne : ¬t.second % 60 = 60 := by omega
    simp only [shown, if_pos plain, if_neg ne]
  · have last := h.leap (Nat.le_of_not_lt plain)
    have whole : t.nano - 1000000000 + 1000000000 = t.nano :=
      Nat.sub_add_cancel (Nat.le_of_not_lt plain)
    simp only [shown, if_neg plain, last, whole]
    rfl

theorem parse_text (h : t.Faithful) : parse t.text = .ok t := by
  simp only [parse, text, String.toList_ofList, h.parts_spelling, bind, Except.bind]
  exact h.ofParts_shown

end Faithful
end Instant
end EventLineage
