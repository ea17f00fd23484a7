import EventLineage.Proofs.Json.Reading

/-! # How deep a text nests

Brackets and braces are counted along a text, those within quotes left out. For the spelling of a
value the count agrees with the nesting of the value. -/
namespace EventLineage.Json
open Text

/-- Where a count of brackets stands: between texts, in a text, or behind a backslash in a text. -/
inductive Scan where
  | between
  | inText
  | escaped

/-- The most lists and objects that are open at one place, when so many are open at the start. -/
def mostOpen : Scan → Nat → List Char → Nat
  | _, opened, [] => opened
  | .inText, opened, c :: cs =>
    if c = '\\' then mostOpen .escaped opened cs
    else if c = '"' then mostOpen .between opened cs
    else mostOpen .inText opened cs
  | .escaped, opened, _ :: cs => mostOpen .inText opened cs
  | .between, opened, c :: cs =>
    if c = '"' then mostOpen .inText opened cs
    else if c = '[' ∨ c = '{' then mostOpen .between (opened + 1) cs
    else if c = ']' ∨ c = '}' then max opened (mostOpen .between (opened - 1) cs)
    else mostOpen .between opened cs

/-- How deep lists and objects stand within each other in a text. -/
def textNesting (s : String) : Nat := mostOpen .between 0 s.toList

private theorem le_mostOpen (scan : Scan) (opened : Nat) (cs : List Char) :
    opened ≤ mostOpen scan opened cs := by
  induction cs generalizing scan opened with
  | nil => simp [mostOpen]
  | cons c cs ih =>
    cases scan with
    | inText =>
      simp only [mostOpen]
      split
      · exact ih _ _
      · split <;> exact ih _ _
    | escaped => exact ih _ _
    | between =>
      simp only [mostOpen]
      split
      · exact ih _ _
      · split
        · exact Nat.le_of_succ_le (ih _ _)
        · split
          · exact Nat.le_max_left _ _
          · exact ih _ _

/-! ## Texts and numbers -/

/-- Characters that neither open nor close anything. -/
def Plain (c : Char) : Prop := c ≠ '"' ∧ c ≠ '[' ∧ c ≠ '{' ∧ c ≠ ']' ∧ c ≠ '}'

private theorem mostOpen_plain (opened : Nat) {cs : List Char} (plain : ∀ c ∈ cs, Plain c)
    (rest : List Char) :
    mostOpen .between opened (cs ++ rest) = mostOpen .between opened rest := by
  induction cs with
  | nil => rfl
  | cons c cs ih =>
    obtain ⟨quote, list, object, endList, endObject⟩ := plain c List.mem_cons_self
    have tail := ih fun d hd => plain d (List.mem_cons_of_mem _ hd)
    simp only [List.cons_append, mostOpen, quote, list, object, endList, endObject, or_self,
      ↓reduceIte, tail]

private theorem plain_of_isDigit {c : Char} (digit : isDigit c = true) : Plain c := by
  refine ⟨?_, ?_, ?_, ?_, ?_⟩ <;> (rintro rfl; exact absurd digit (by decide))

private theorem mostOpen_inText (opened : Nat) {cs : List Char}
    (plain : ∀ c ∈ cs, c ≠ '"' ∧ c ≠ '\\') (rest : List Char) :
    mostOpen .inText opened (cs ++ rest) = mostOpen .inText opened rest := by
  induction cs with
  | nil => rfl
  | cons c cs ih =>
    obtain ⟨quote, backslash⟩ := plain c List.mem_cons_self
    have tail := ih fun d hd => plain d (List.mem_cons_of_mem _ hd)
    simp only [List.cons_append, mostOpen, quote, backslash, ↓reduceIte, tail]

private theorem hexadecimal_inText {c : Char} (control : c < ' ') :
    ∀ d ∈ '0' :: '0' :: padTo 2 (hexadecimal c.toNat), d ≠ '"' ∧ d ≠ '\\' := by
  have small := toNat_lt_of_control control
  have lt : c.toNat < Nat.pow 16 2 := by
    show c.toNat < 256
    omega
  obtain ⟨ds, -, -, -, shape, below⟩ := exists_hexadecimal_padTo (show 0 < 2 by omega) lt
  have hex : ∀ n < 16, digitChar n ≠ '"' ∧ digitChar n ≠ '\\' := by decide
  intro d hd
  rcases List.mem_cons.1 hd with rfl | hd
  · decide
  rcases List.mem_cons.1 hd with rfl | hd
  · decide
  · rw [shape] at hd
    obtain ⟨n, hn, rfl⟩ := List.mem_map.1 hd
    exact hex n (below n hn)

private theorem mostOpen_escaped (opened : Nat) (c : Char) (rest : List Char) :
    mostOpen .inText opened (escaped c ++ rest) = mostOpen .inText opened rest := by
  rcases escaped_cases c with
    ⟨letter, shape, -, -⟩ | ⟨control, shape⟩ | ⟨quote, backslash, -, shape⟩
  · rw [shape]
    rfl
  · rw [shape]
    exact mostOpen_inText opened (hexadecimal_inText control) rest
  · rw [shape]
    exact mostOpen_inText opened (by simpa using ⟨quote, backslash⟩) rest

private theorem mostOpen_quote (opened : Nat) (s : String) (rest : List Char) :
    mostOpen .between opened (quote s ++ rest) = mostOpen .between opened rest := by
  have inner (cs : List Char) :
      mostOpen .inText opened (cs.flatMap escaped ++ '"' :: rest) =
        mostOpen .between opened rest := by
    induction cs with
    | nil => rfl
    | cons c cs ih => rw [List.flatMap_cons, List.append_assoc, mostOpen_escaped, ih]
  rw [quote_append]
  exact inner s.toList

private theorem mostOpen_number (opened : Nat) {n : Number} (h : FloatFree (.number n))
    (rest : List Char) :
    mostOpen .between opened (n.spelling ++ rest) = mostOpen .between opened rest := by
  cases n with
  | natural n =>
    exact mostOpen_plain opened (fun c hc => plain_of_isDigit (isDigit_of_mem_decimal _ c hc)) rest
  | negative n =>
    refine mostOpen_plain opened (fun c hc => ?_) rest
    rcases List.mem_cons.1 hc with rfl | hc
    · refine ⟨?_, ?_, ?_, ?_, ?_⟩ <;> decide
    · exact plain_of_isDigit (isDigit_of_mem_decimal _ c hc)
  | float x => simp [FloatFree, Number.toInt?] at h

/-! ## Values -/

private theorem mostOpen_comma (opened : Nat) (cs : List Char) :
    mostOpen .between opened (',' :: cs) = mostOpen .between opened cs := rfl

private theorem mostOpen_colon (opened : Nat) (cs : List Char) :
    mostOpen .between opened (':' :: cs) = mostOpen .between opened cs := rfl

private theorem mostOpen_bracket (opened : Nat) (cs : List Char) :
    mostOpen .between opened ('[' :: cs) = mostOpen .between (opened + 1) cs := rfl

private theorem mostOpen_brace (opened : Nat) (cs : List Char) :
    mostOpen .between opened ('{' :: cs) = mostOpen .between (opened + 1) cs := rfl

private theorem mostOpen_flat {opened : Nat} {cs rest : List Char}
    (h : mostOpen .between opened (cs ++ rest) = mostOpen .between opened rest) :
    mostOpen .between opened (cs ++ rest) = max (opened + 0) (mostOpen .between opened rest) := by
  rw [h, Nat.add_zero, Nat.max_eq_right (le_mostOpen _ _ _)]

mutual

/-- A value opens as many lists and objects as it nests, and closes all of them. -/
theorem mostOpen_spelling : ∀ v : Json, FloatFree v → ∀ opened rest,
    mostOpen .between opened (v.spelling ++ rest) =
      max (opened + v.nesting) (mostOpen .between opened rest)
  | .null, _, _, _ => mostOpen_flat rfl
  | .bool true, _, _, _ => mostOpen_flat rfl
  | .bool false, _, _, _ => mostOpen_flat rfl
  | .number n, h, opened, rest => mostOpen_flat (mostOpen_number opened h rest)
  | .text s, _, opened, rest => mostOpen_flat (mostOpen_quote opened s rest)
  | .list [], _, opened, rest => by
    show max (opened + 1) (mostOpen .between opened rest) = _
    simp only [nesting, itemsNesting, Nat.zero_add]
  | .list (v :: vs), h, opened, rest => by
    have first := mostOpen_spelling v h.1 (opened + 1) (itemsSpelling vs ++ rest)
    have others := mostOpen_itemsSpelling vs h.2 opened rest
    have shape : (Json.list (v :: vs)).spelling ++ rest =
        '[' :: (v.spelling ++ (itemsSpelling vs ++ rest)) := by
      simp [spelling]
    rw [shape, mostOpen_bracket, first, others]
    simp only [nesting, itemsNesting]
    omega
  | .object [], _, opened, rest => by
    show max (opened + 1) (mostOpen .between opened rest) = _
    simp only [nesting, membersNesting, Nat.zero_add]
  | .object ((k, v) :: ms), h, opened, rest => by
    have first := mostOpen_spelling v h.1 (opened + 1) (membersSpelling ms ++ rest)
    have others := mostOpen_membersSpelling ms h.2 opened rest
    have shape : (Json.object ((k, v) :: ms)).spelling ++ rest =
        '{' :: (quote k ++ ':' :: (v.spelling ++ (membersSpelling ms ++ rest))) := by
      simp [spelling]
    rw [shape, mostOpen_brace, mostOpen_quote, mostOpen_colon, first, others]
    simp only [nesting, membersNesting]
    omega

private theorem mostOpen_itemsSpelling : ∀ vs : List Json, ItemsFloatFree vs → ∀ opened rest,
    mostOpen .between (opened + 1) (itemsSpelling vs ++ rest) =
      max (opened + 1 + itemsNesting vs) (mostOpen .between opened rest)
  | [], _, _, _ => rfl
  | v :: vs, h, opened, rest => by
    have first := mostOpen_spelling v h.1 (opened + 1) (itemsSpelling vs ++ rest)
    have others := mostOpen_itemsSpelling vs h.2 opened rest
    have shape : itemsSpelling (v :: vs) ++ rest =
      ',' :: (v.spelling ++ (itemsSpelling vs ++ rest)) := by
      simp [itemsSpelling]
    rw [shape, mostOpen_comma, first, others]
    simp only [itemsNesting]
    omega

private theorem mostOpen_membersSpelling :
    ∀ ms : List (String × Json), MembersFloatFree ms → ∀ opened rest,
    mostOpen .between (opened + 1) (membersSpelling ms ++ rest) =
      max (opened + 1 + membersNesting ms) (mostOpen .between opened rest)
  | [], _, _, _ => rfl
  | (k, v) :: ms, h, opened, rest => by
    have first := mostOpen_spelling v h.1 (opened + 1) (membersSpelling ms ++ rest)
    have others := mostOpen_membersSpelling ms h.2 opened rest
    have shape : membersSpelling ((k, v) :: ms) ++ rest =
        ',' :: (quote k ++ ':' :: (v.spelling ++ (membersSpelling ms ++ rest))) := by
      simp [membersSpelling]
    rw [shape, mostOpen_comma, mostOpen_quote, mostOpen_colon, first, others]
    simp only [membersNesting]
    omega

end

theorem textNesting_render {v : Json} (h : v.FloatFree) : textNesting v.render = v.nesting := by
  have count := mostOpen_spelling v h 0 []
  rw [List.append_nil] at count
  simp only [textNesting, render, String.toList_ofList, count, mostOpen, Nat.zero_add, Nat.max_zero]

end EventLineage.Json
