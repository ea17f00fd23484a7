import EventLineage.Proofs.Instant
import EventLineage.Proofs.Success

/-! # Instants that are read are shown faithfully

The components of a spelling lie within bounds, a leap second stands at the end of a minute, and
offsets are told in whole minutes. So moving the components to universal time gives an instant that
its own spelling shows. -/
namespace EventLineage
open Text

/-! ## Dates -/

namespace Date

private theorem one_le_monthLength (year : Int) (month : Nat) : 1 ≤ monthLength year month := by
  unfold monthLength
  split <;> split <;> decide

theorem Exists.next? {d e : Date} (h : d.Exists) (next : d.next? = some e) : e.Exists := by
  obtain ⟨year, month, day⟩ := h
  unfold Date.next? at next
  split at next
  · cases next
    exact ⟨year, month, by simp only; omega⟩
  · split at next
    · cases next
      exact ⟨year, by simp only; omega, Nat.le_refl 1, one_le_monthLength _ _⟩
    · split at next
      · rename_i later
        cases next
        exact ⟨later, ⟨Nat.le_refl 1, by simp only; omega⟩, Nat.le_refl 1, one_le_monthLength _ _⟩
      · cases next

theorem Exists.previous? {d e : Date} (h : d.Exists)
    (previous : d.previous? = some e) : e.Exists := by
  obtain ⟨year, month, day⟩ := h
  unfold Date.previous? at previous
  split at previous
  · cases previous
    exact ⟨year, month, by simp only; omega⟩
  · split at previous
    · cases previous
      exact ⟨year, by simp only; omega, one_le_monthLength _ _, Nat.le_refl _⟩
    · split at previous
      · rename_i earlier
        cases previous
        exact ⟨earlier, ⟨by simp only; omega, Nat.le_refl 12⟩,
          ⟨by simp only; omega, Nat.le_refl 31⟩⟩
      · cases previous

end Date

namespace Instant

/-! ## Components -/

private theorem digitValue_lt {c : Char} (h : isDigit c = true) : digitValue c < 10 := by
  obtain ⟨low, high⟩ := toNat_of_isDigit h
  rw [digitValue]
  omega

private theorem number_bound {k : Nat} {cs rest : List Char} {n : Nat}
    (h : number (some k) cs = .ok (n, rest)) :
    ∃ w ≤ k, cs.length - rest.length = w ∧ n < Nat.pow 10 w := by
  simp only [number] at h
  generalize shape : (cs.take k).takeWhile isDigit = ds at h
  have digits : ∀ d ∈ ds.map digitValue, d < 10 := by
    intro d hd
    obtain ⟨c, hc, rfl⟩ := List.mem_map.1 hd
    rw [← shape] at hc
    exact digitValue_lt (List.all_eq_true.1 List.all_takeWhile c hc)
  have short : ds.length ≤ (cs.take k).length := by
    rw [← shape]
    exact (List.takeWhile_prefix _).length_le
  rw [List.length_take] at short
  split at h
  · cases h
  · split at h
    · cases h
    · split at h
      · cases h
        refine ⟨ds.length, by omega, ?_, ?_⟩
        · rw [List.length_drop]
          omega
        · have bound := valueOf_lt digits
          rw [List.length_map] at bound
          exact bound
      · cases h

private theorem nanoseconds_lt {cs rest : List Char} {n : Nat}
    (h : nanoseconds cs = .ok (n, rest)) : n < 1000000000 := by
  unfold nanoseconds at h
  split at h
  · obtain ⟨⟨m, left⟩, read, h⟩ := bind_eq_ok_iff.1 h
    cases h
    obtain ⟨w, most, used, bound⟩ := number_bound read
    rw [used]
    calc m * Nat.pow 10 (9 - w)
      _ < Nat.pow 10 w * Nat.pow 10 (9 - w) :=
        Nat.mul_lt_mul_of_pos_right bound (Nat.pow_pos (by decide))
      _ = Nat.pow 10 9 := by
        have whole : w + (9 - w) = 9 := by omega
        rw [Nat.pow_eq, Nat.pow_eq, ← Nat.pow_add, whole]
  · cases h
    decide

private theorem component_bounds {low high n : Nat} {cs rest : List Char}
    (h : component low high cs = .ok (n, rest)) : low ≤ n ∧ n ≤ high := by
  obtain ⟨⟨m, left⟩, -, h⟩ := bind_eq_ok_iff.1 h
  simp only at h
  split at h
  · cases h
    assumption
  · cases h

/-- Offsets are told in minutes. -/
theorem dvd_offset {cs rest : List Char} {o : Int} (h : offset cs = .ok (o, rest)) : 60 ∣ o := by
  unfold offset at h
  split at h
  · cases h
    exact Int.dvd_zero 60
  · split at h
    · cases h
      exact Int.dvd_zero 60
    · cases h
      exact Int.dvd_zero 60
    · obtain ⟨⟨sign, afterSign⟩, -, h⟩ := bind_eq_ok_iff.1 h
      obtain ⟨⟨hours, afterHours⟩, -, h⟩ := bind_eq_ok_iff.1 h
      obtain ⟨⟨minutes, afterMinutes⟩, -, h⟩ := bind_eq_ok_iff.1 h
      cases h
      have sixty : hours * 3600 + minutes * 60 = 60 * (hours * 60 + minutes) := by omega
      rw [sixty, Int.natCast_mul]
      exact Int.dvd_mul_of_dvd_right (Int.dvd_mul_right 60 _)

/-- Within what the components of a spelling lie when it is read. -/
structure Parts.Bounded (p : Parts) : Prop where
  hour : p.hour ≤ 23
  minute : p.minute ≤ 59
  second : p.second ≤ 60
  nano : p.nano < 1000000000
  offset : 60 ∣ p.offset

private theorem bounded_of_parts {cs : List Char} {p : Parts} (h : parts cs = .ok p) :
    p.Bounded := by
  obtain ⟨_, -, h⟩ := bind_eq_ok_iff.1 h
  obtain ⟨_, -, h⟩ := bind_eq_ok_iff.1 h
  obtain ⟨_, -, h⟩ := bind_eq_ok_iff.1 h
  obtain ⟨_, -, h⟩ := bind_eq_ok_iff.1 h
  obtain ⟨_, -, h⟩ := bind_eq_ok_iff.1 h
  obtain ⟨_, -, h⟩ := bind_eq_ok_iff.1 h
  obtain ⟨_, hour, h⟩ := bind_eq_ok_iff.1 h
  obtain ⟨_, -, h⟩ := bind_eq_ok_iff.1 h
  obtain ⟨_, minute, h⟩ := bind_eq_ok_iff.1 h
  obtain ⟨_, -, h⟩ := bind_eq_ok_iff.1 h
  obtain ⟨_, second, h⟩ := bind_eq_ok_iff.1 h
  obtain ⟨_, nano, h⟩ := bind_eq_ok_iff.1 h
  obtain ⟨_, offset, h⟩ := bind_eq_ok_iff.1 h
  simp only at h
  split at h
  · cases h
    exact ⟨(component_bounds hour).2, (component_bounds minute).2, (component_bounds second).2,
      nanoseconds_lt nano, dvd_offset offset⟩
  · cases h

/-! ## Instants -/

/-- A shift keeps the date in the calendar and the second of the minute as it is. -/
theorem exists_of_shift {d : Date} {moved : Int} {nano : Nat} {t : Instant} (date : d.Exists)
    (above : -86400 ≤ moved) (below : moved < 172800) (h : shift d moved nano = some t) :
    t.date.Exists ∧ t.second < 86400 ∧ (t.second : Int) % 60 = moved % 60 ∧ t.nano = nano := by
  unfold shift at h
  split at h
  · obtain ⟨e, previous, rfl⟩ := Option.map_eq_some_iff.1 h
    exact ⟨date.previous? previous, by simp only; omega, by simp only; omega, rfl⟩
  · split at h
    · cases h
      exact ⟨date, by simp only; omega, by simp only; omega, rfl⟩
    · obtain ⟨e, next, rfl⟩ := Option.map_eq_some_iff.1 h
      exact ⟨date.next? next, by simp only; omega, by simp only; omega, rfl⟩

private theorem faithful_of_shift {d : Date} {moved : Int} {nano : Nat} {t : Instant}
    (date : d.Exists) (above : -86400 ≤ moved) (below : moved < 172800) (lt : nano < 2000000000)
    (leap : 1000000000 ≤ nano → moved % 60 = 59) (h : shift d moved nano = some t) :
    t.Faithful := by
  obtain ⟨exists_, second, minute, same⟩ := exists_of_shift date above below h
  refine ⟨Date.ofParts?_eq_some_iff.2 ⟨exists_, rfl⟩, second, same ▸ lt, fun more => ?_⟩
  have last := leap (same ▸ more)
  omega

theorem Parts.Bounded.faithful {p : Parts} {t : Instant} (bounded : p.Bounded)
    (h : ofParts p = .ok t) : t.Faithful := by
  obtain ⟨hour, minute, second, nano, k, offset⟩ := bounded
  simp only [ofParts] at h
  split at h
  · cases h
  · rename_i date named
    have exists_ := (Date.ofParts?_eq_some_iff.1 named).1
    split at h
    · cases h
    · rename_i within
      split at h
      · rename_i shifted
        cases h
        by_cases last : p.second = 60
        · simp only [if_pos last] at shifted
          exact faithful_of_shift exists_ (by omega) (by omega) (by omega) (by omega) shifted
        · simp only [if_neg last] at shifted
          exact faithful_of_shift exists_ (by omega) (by omega) (by omega) (by omega) shifted
      · cases h

theorem faithful_of_parse {s : String} {t : Instant} (h : parse s = .ok t) : t.Faithful := by
  obtain ⟨p, read, named⟩ := bind_eq_ok_iff.1 h
  exact (bounded_of_parts read).faithful named

end Instant
end EventLineage
