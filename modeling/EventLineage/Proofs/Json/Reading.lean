import EventLineage.Proofs.Json.Tokens

/-! # Values are read back from their spelling, unless they nest too deep

What is read from the spelling of a value depends on one thing only: on whether the value nests no
deeper than is allowed. If so it is read back; if not, the reading stops because of the depth.
Readings compose with this, and lists and objects pass it on from what stands in them. -/
namespace EventLineage.Json
open Text

/-! ## Readings that stop only because of the depth -/

/-- A reading gives a result as long as the depth is allowed, and stops because of the depth if
not. -/
structure OkWhen (allowed : Prop) (r : Except Stop α) (a : α) : Prop where
  ok : allowed → r = .ok a
  tooDeep : ¬allowed → ∃ unread, r = .error (.next .tooDeep unread)

namespace OkWhen

variable {p q : Prop} {r : Except Stop α} {a : α}

theorem of_ok (h : r = .ok a) (hp : p) : OkWhen p r a := ⟨fun _ => h, fun not => absurd hp not⟩

theorem congr (h : OkWhen p r a) (iff : q ↔ p) : OkWhen q r a :=
  ⟨fun hq => h.ok (iff.1 hq), fun not => h.tooDeep fun hp => not (iff.2 hp)⟩

theorem bind {f : α → Except Stop β} {b : β} (h : OkWhen p r a) (next : OkWhen q (f a) b) :
    OkWhen (p ∧ q) (r >>= f) b where
  ok both := by
    rw [h.ok both.1]
    exact next.ok both.2
  tooDeep not := by
    by_cases hp : p
    · rw [h.ok hp]
      exact next.tooDeep fun hq => not ⟨hp, hq⟩
    · obtain ⟨unread, stop⟩ := h.tooDeep hp
      rw [stop]
      exact ⟨unread, rfl⟩

theorem map (h : OkWhen p r a) (f : α → β) : OkWhen p (r.map f) (f a) where
  ok hp := by
    rw [h.ok hp]
    rfl
  tooDeep not := by
    obtain ⟨unread, stop⟩ := h.tooDeep not
    rw [stop]
    exact ⟨unread, rfl⟩

theorem inList {inner : Reading α} {cs rest : List Char}
    (h : OkWhen p (inner cs) (a, ']' :: rest)) :
    OkWhen p (Json.inList inner cs) (a, rest) where
  ok hp := by
    rw [Json.inList, h.ok hp]
    rfl
  tooDeep not := by
    obtain ⟨unread, stop⟩ := h.tooDeep not
    rw [Json.inList, stop]
    exact ⟨unread, rfl⟩

theorem inObject {inner : Reading α} {cs rest : List Char}
    (h : OkWhen p (inner cs) (a, '}' :: rest)) :
    OkWhen p (Json.inObject inner cs) (a, rest) where
  ok hp := by
    rw [Json.inObject, h.ok hp]
    rfl
  tooDeep not := by
    obtain ⟨unread, stop⟩ := h.tooDeep not
    rw [Json.inObject, stop]
    exact ⟨unread, rfl⟩

/-- A list or an object takes one of the levels; what stands in it may nest as deep as the
others. -/
theorem level {n : Nat} {r : Nat → Except Stop α}
    (none : ∃ unread, r 0 = .error (.next .tooDeep unread))
    (inside : ∀ levels, OkWhen (n ≤ levels) (r (levels + 1)) a) (levels : Nat) :
    OkWhen (n + 1 ≤ levels) (r levels) a := by
  cases levels with
  | zero => exact ⟨fun allowed => absurd allowed (Nat.not_succ_le_zero n), fun _ => none⟩
  | succ levels =>
    apply (inside levels).congr
    exact Nat.add_le_add_iff_right

end OkWhen

/-- Characters that start a value in a list. -/
def Opens (cs : List Char) : Prop := ∃ c rest, cs = c :: rest ∧ isGap c = false ∧ c ≠ ']'

theorem Opens.append {cs : List Char} (h : Opens cs) (rest : List Char) : Opens (cs ++ rest) := by
  obtain ⟨c, tail, rfl, gap, bracket⟩ := h
  exact ⟨c, tail ++ rest, rfl, gap, bracket⟩

theorem opens_cons {c : Char} (cs : List Char) (gap : isGap c = false := by decide)
    (bracket : c ≠ ']' := by decide) : Opens (c :: cs) :=
  ⟨c, cs, rfl, gap, bracket⟩

/-- A reader that is told how deep lists and objects may nest reads something from the spelling of a
value. -/
structure ReadsBack (read : Nat → Reading α) (v : Json) (a : α) : Prop where
  opens : Opens v.spelling
  okWhen : ∀ levels rest, Delimited rest →
    OkWhen (v.nesting ≤ levels) (read levels (v.spelling ++ rest)) (a, rest)

theorem ReadsBack.map {read : Nat → Reading α} {v : Json} {a : α}
    (h : ReadsBack read v a) (f : α → β) :
    ReadsBack (fun levels cs => (read levels cs).map fun p => (f p.1, p.2)) v (f a) where
  opens := h.opens
  okWhen levels rest delimited := (h.okWhen levels rest delimited).map fun p => (f p.1, p.2)

/-! ## Marks between items and members -/

private theorem anotherItem_end (first : Bool) (rest : List Char) :
    anotherItem first (']' :: rest) = .ok (false, ']' :: rest) := rfl

theorem anotherItem_first {cs : List Char} (h : Opens cs) :
    anotherItem true cs = .ok (true, cs) := by
  obtain ⟨c, rest, rfl, gap, bracket⟩ := h
  simp [anotherItem, skipGaps_cons gap, bracket]

theorem anotherItem_comma {cs : List Char} (h : Opens cs) :
    anotherItem false (',' :: cs) = .ok (true, cs) := by
  obtain ⟨c, rest, rfl, gap, bracket⟩ := h
  simp [anotherItem, skipGaps_cons (show isGap ',' = false by decide), skipGaps_cons gap, bracket]

theorem anotherKey_end (first : Bool) (rest : List Char) :
    anotherKey first ('}' :: rest) = .ok (false, '}' :: rest) := rfl

theorem anotherKey_first (cs : List Char) : anotherKey true ('"' :: cs) = .ok (true, cs) := rfl

theorem anotherKey_comma (cs : List Char) :
    anotherKey false (',' :: '"' :: cs) = .ok (true, cs) := rfl

theorem colon_cons (cs : List Char) : colon (':' :: cs) = .ok cs := rfl

/-! ## Lists -/

theorem delimited_itemsSpelling (vs : List Json) (rest : List Char) :
    Delimited (itemsSpelling vs ++ rest) := by
  cases vs with
  | nil => exact delimited_cons (.inr (.inl rfl)) rest
  | cons v vs => exact delimited_cons (.inl rfl) _

theorem delimited_membersSpelling (ms : List (String × Json)) (rest : List Char) :
    Delimited (membersSpelling ms ++ rest) := by
  cases ms with
  | nil => exact delimited_cons (.inr (.inr rfl)) rest
  | cons m ms => exact delimited_cons (.inl rfl) _

/-- The spelling of a list behind its bracket. -/
def listTail : List Json → List Char
  | [] => [']']
  | v :: rest => v.spelling ++ itemsSpelling rest

theorem spelling_list (vs : List Json) : (Json.list vs).spelling = '[' :: listTail vs := by
  cases vs with
  | nil => rfl
  | cons v vs => simp [spelling, listTail]

private theorem length_lt_itemsSpelling (vs : List Json) :
    vs.length < (itemsSpelling vs).length := by
  induction vs with
  | nil => simp [itemsSpelling]
  | cons v vs ih =>
    simp only [itemsSpelling, List.length_cons, List.length_append]
    omega

private theorem length_le_listTail {vs : List Json} (h : ∀ v ∈ vs, Opens v.spelling)
    (rest : List Char) :
    vs.length ≤ (listTail vs ++ rest).length := by
  cases vs with
  | nil => simp
  | cons v vs =>
    obtain ⟨c, cs, eq, -⟩ := h v List.mem_cons_self
    have := length_lt_itemsSpelling vs
    simp only [listTail, eq, List.length_cons, List.length_append]
    omega

section Lists

variable {item : Nat → Reading α} {write : α → Json}

/-- The induction is on the items; the bound on the steps leaves one for each of them and the
bracket. -/
theorem okWhen_items {as : List α} (back : ∀ a ∈ as, ReadsBack item (write a) a) (levels : Nat)
    {fuel : Nat} (enough : as.length < fuel) (acc : List α) (rest : List Char) :
    OkWhen (itemsNesting (as.map write) ≤ levels)
      (items (item levels) fuel false acc (itemsSpelling (as.map write) ++ rest))
      (acc.reverse ++ as, ']' :: rest) := by
  induction as generalizing fuel acc with
  | nil =>
    obtain ⟨fuel, rfl⟩ : ∃ n, fuel = n + 1 := ⟨fuel - 1, by omega⟩
    refine .of_ok ?_ (Nat.zero_le _)
    simp only [List.map_nil, itemsSpelling, List.cons_append, List.nil_append, items,
      anotherItem_end, List.append_nil, bind, Except.bind, Bool.false_eq_true, ↓reduceIte]
  | cons a as ih =>
    simp only [List.length_cons] at enough
    obtain ⟨fuel, rfl⟩ : ∃ n, fuel = n + 1 := ⟨fuel - 1, by omega⟩
    have head := back a List.mem_cons_self
    have tail := ih (fun b hb => back b (List.mem_cons_of_mem _ hb))
      (show as.length < fuel by omega) (a :: acc)
    have step : items (item levels) (fuel + 1) false acc
      (itemsSpelling ((a :: as).map write) ++ rest) =
        item levels ((write a).spelling ++ (itemsSpelling (as.map write) ++ rest)) >>=
          fun p => items (item levels) fuel false (p.1 :: acc) p.2 := by
      simp only [List.map_cons, itemsSpelling, List.cons_append, List.append_assoc, items,
        anotherItem_comma (head.opens.append _), bind, Except.bind, ↓reduceIte]
    rw [step]
    have first := head.okWhen levels _ (delimited_itemsSpelling (as.map write) rest)
    have both := first.bind (f := fun p => items (item levels) fuel false (p.1 :: acc) p.2) tail
    simp only [List.reverse_cons, List.append_assoc, List.cons_append, List.nil_append] at both
    refine both.congr ?_
    simp only [List.map_cons, itemsNesting]
    omega

private theorem okWhen_list {as : List α} (back : ∀ a ∈ as, ReadsBack item (write a) a)
    (levels : Nat) {fuel : Nat} (enough : as.length < fuel) (rest : List Char) :
    OkWhen (itemsNesting (as.map write) ≤ levels)
      (inList (items (item levels) fuel true []) (listTail (as.map write) ++ rest)) (as, rest) := by
  obtain ⟨fuel, rfl⟩ : ∃ n, fuel = n + 1 := ⟨fuel - 1, by omega⟩
  apply OkWhen.inList
  cases as with
  | nil => exact .of_ok rfl (Nat.zero_le _)
  | cons a as =>
    simp only [List.length_cons] at enough
    have head := back a List.mem_cons_self
    have tail := okWhen_items (fun b hb => back b (List.mem_cons_of_mem _ hb)) levels
      (show as.length < fuel by omega) [a] rest
    have step : items (item levels) (fuel + 1) true [] (listTail ((a :: as).map write) ++ rest) =
        item levels ((write a).spelling ++ (itemsSpelling (as.map write) ++ rest)) >>=
          fun p => items (item levels) fuel false [p.1] p.2 := by
      simp only [List.map_cons, listTail, List.append_assoc, items,
        anotherItem_first (head.opens.append _), bind, Except.bind, ↓reduceIte]
    rw [step]
    have first := head.okWhen levels _ (delimited_itemsSpelling (as.map write) rest)
    refine (first.bind (f := fun p => items (item levels) fuel false [p.1] p.2) tail).congr ?_
    simp only [List.map_cons, itemsNesting]
    omega

/-- The reader takes the bracket of a list, and reads its items with one level less. -/
structure ReadsLists (read : Nat → Reading β) (item : Nat → Reading α)
    (make : List α → β) : Prop where
  none : ∀ cs, ∃ unread, read 0 ('[' :: cs) = .error (.next .tooDeep unread)
  inside : ∀ levels cs, read (levels + 1) ('[' :: cs) =
    (inList (items (item levels) (cs.length + 1) true []) cs).map fun p => (make p.1, p.2)

theorem ReadsLists.readsBack {read : Nat → Reading β} {make : List α → β}
    (h : ReadsLists read item make) {as : List α} (back : ∀ a ∈ as, ReadsBack item (write a) a) :
    ReadsBack read (.list (as.map write)) (make as) where
  opens := by
    rw [spelling_list]
    exact opens_cons _
  okWhen levels rest _ := by
    rw [spelling_list, List.cons_append, nesting]
    refine OkWhen.level (r := fun levels => read levels _) ?_ (fun levels => ?_) levels
    · exact h.none _
    · have opens : ∀ v ∈ as.map write, Opens v.spelling := by
        intro v hv
        obtain ⟨a, ha, rfl⟩ := List.mem_map.1 hv
        exact (back a ha).opens
      have enough : as.length < (listTail (as.map write) ++ rest).length + 1 := by
        have := length_le_listTail opens rest
        rw [List.length_map] at this
        omega
      rw [h.inside]
      exact (okWhen_list back levels enough rest).map fun p => (make p.1, p.2)

end Lists

/-! ## Objects -/

/-- The spelling of an object behind its brace. -/
def objectTail : List (String × Json) → List Char
  | [] => ['}']
  | (k, v) :: rest => quote k ++ ':' :: v.spelling ++ membersSpelling rest

theorem spelling_object (ms : List (String × Json)) :
    (Json.object ms).spelling = '{' :: objectTail ms := by
  cases ms with
  | nil => rfl
  | cons m ms =>
    obtain ⟨k, v⟩ := m
    simp [spelling, objectTail]

theorem anotherKey_membersSpelling (k : String) (v : Json)
    (ms : List (String × Json)) (rest : List Char) :
    anotherKey false (membersSpelling ((k, v) :: ms) ++ rest) = .ok (true,
      k.toList.flatMap escaped ++ '"' :: ':' :: (v.spelling ++ (membersSpelling ms ++ rest))) := by
  simp only [membersSpelling, List.cons_append, List.append_assoc, quote_append, anotherKey_comma]

theorem anotherKey_objectTail (k : String) (v : Json)
    (ms : List (String × Json)) (rest : List Char) :
    anotherKey true (objectTail ((k, v) :: ms) ++ rest) = .ok (true,
      k.toList.flatMap escaped ++ '"' :: ':' :: (v.spelling ++ (membersSpelling ms ++ rest))) := by
  simp only [objectTail, List.cons_append, List.append_assoc, quote_append, anotherKey_first]

private theorem length_lt_membersSpelling (ms : List (String × Json)) :
    ms.length < (membersSpelling ms).length := by
  induction ms with
  | nil => simp [membersSpelling]
  | cons m ms ih =>
    obtain ⟨k, v⟩ := m
    simp only [membersSpelling, List.length_cons, List.length_append]
    omega

theorem length_le_objectTail (ms : List (String × Json)) (rest : List Char) :
    ms.length ≤ (objectTail ms ++ rest).length := by
  cases ms with
  | nil => simp
  | cons m ms =>
    obtain ⟨k, v⟩ := m
    have := length_lt_membersSpelling ms
    simp only [objectTail, List.length_cons, List.length_append]
    omega

section Objects

variable {item : Nat → Reading Json}

private theorem okWhen_members {ms : List (String × Json)} (back : ∀ m ∈ ms, ReadsBack item m.2 m.2)
    (levels : Nat) {fuel : Nat} (enough : ms.length < fuel) (acc : List (String × Json))
    (rest : List Char) :
    OkWhen (membersNesting ms ≤ levels)
      (members (item levels) fuel false acc (membersSpelling ms ++ rest))
      (acc.reverse ++ ms, '}' :: rest) := by
  induction ms generalizing fuel acc with
  | nil =>
    obtain ⟨fuel, rfl⟩ : ∃ n, fuel = n + 1 := ⟨fuel - 1, by omega⟩
    refine .of_ok ?_ (Nat.zero_le _)
    simp only [membersSpelling, List.cons_append, List.nil_append, members, anotherKey_end,
      List.append_nil, bind, Except.bind, Bool.false_eq_true, ↓reduceIte]
  | cons m ms ih =>
    obtain ⟨k, v⟩ := m
    simp only [List.length_cons] at enough
    obtain ⟨fuel, rfl⟩ : ∃ n, fuel = n + 1 := ⟨fuel - 1, by omega⟩
    have head := back (k, v) List.mem_cons_self
    have tail := ih (fun b hb => back b (List.mem_cons_of_mem _ hb))
      (show ms.length < fuel by omega) ((k, v) :: acc)
    have step : members (item levels) (fuel + 1) false acc
      (membersSpelling ((k, v) :: ms) ++ rest) =
        item levels (v.spelling ++ (membersSpelling ms ++ rest)) >>=
          fun p => members (item levels) fuel false ((k, p.1) :: acc) p.2 := by
      simp only [membersSpelling, List.cons_append, List.append_assoc, quote_append, members,
        anotherKey_comma, readText_escaped, colon_cons, bind, Except.bind, ↓reduceIte]
    rw [step]
    have first := head.okWhen levels _ (delimited_membersSpelling ms rest)
    have both :=
      first.bind (f := fun p => members (item levels) fuel false ((k, p.1) :: acc) p.2) tail
    simp only [List.reverse_cons, List.append_assoc, List.cons_append, List.nil_append] at both
    refine both.congr ?_
    simp only [membersNesting]
    omega

private theorem okWhen_object {ms : List (String × Json)} (back : ∀ m ∈ ms, ReadsBack item m.2 m.2)
    (levels : Nat) {fuel : Nat} (enough : ms.length < fuel) (rest : List Char) :
    OkWhen (membersNesting ms ≤ levels)
      (inObject (members (item levels) fuel true []) (objectTail ms ++ rest)) (ms, rest) := by
  obtain ⟨fuel, rfl⟩ : ∃ n, fuel = n + 1 := ⟨fuel - 1, by omega⟩
  apply OkWhen.inObject
  cases ms with
  | nil => exact .of_ok rfl (Nat.zero_le _)
  | cons m ms =>
    obtain ⟨k, v⟩ := m
    simp only [List.length_cons] at enough
    have head := back (k, v) List.mem_cons_self
    have tail := okWhen_members (fun b hb => back b (List.mem_cons_of_mem _ hb)) levels
      (show ms.length < fuel by omega) [(k, v)] rest
    have step : members (item levels) (fuel + 1) true [] (objectTail ((k, v) :: ms) ++ rest) =
        item levels (v.spelling ++ (membersSpelling ms ++ rest)) >>=
          fun p => members (item levels) fuel false [(k, p.1)] p.2 := by
      simp only [objectTail, List.append_assoc, List.cons_append, quote_append, members,
        anotherKey_first, readText_escaped, colon_cons, bind, Except.bind, ↓reduceIte]
    rw [step]
    have first := head.okWhen levels _ (delimited_membersSpelling ms rest)
    have both := first.bind (f := fun p => members (item levels) fuel false [(k, p.1)] p.2) tail
    refine both.congr ?_
    simp only [membersNesting]
    omega

end Objects

/-! ## Values -/

mutual

/-- All numbers in the value are integers. -/
def FloatFree : Json → Prop
  | .number n => n.toInt?.isSome
  | .list items => ItemsFloatFree items
  | .object members => MembersFloatFree members
  | _ => True

def ItemsFloatFree : List Json → Prop
  | [] => True
  | v :: rest => FloatFree v ∧ ItemsFloatFree rest

def MembersFloatFree : List (String × Json) → Prop
  | [] => True
  | (_, v) :: rest => FloatFree v ∧ MembersFloatFree rest

end

theorem itemsFloatFree_iff {vs : List Json} : ItemsFloatFree vs ↔ ∀ v ∈ vs, v.FloatFree := by
  induction vs with
  | nil => simp [ItemsFloatFree]
  | cons v vs ih => simp [ItemsFloatFree, ih]

theorem membersFloatFree_iff {ms : List (String × Json)} :
    MembersFloatFree ms ↔ ∀ m ∈ ms, m.2.FloatFree := by
  induction ms with
  | nil => simp [MembersFloatFree]
  | cons m ms ih =>
    obtain ⟨k, v⟩ := m
    simp [MembersFloatFree, ih]

theorem exists_decimal_cons (n : Nat) : ∃ c cs, decimal n = c :: cs ∧ isDigit c = true := by
  cases h : decimal n with
  | nil => exact absurd h (decimal_ne_nil n)
  | cons c cs => exact ⟨c, cs, rfl, isDigit_of_mem_decimal n c (by simp [h])⟩

theorem opens_decimal (n : Nat) : Opens (decimal n) := by
  obtain ⟨c, cs, eq, digit⟩ := exists_decimal_cons n
  rw [eq]
  refine opens_cons cs ?_ ?_
  · refine Bool.eq_false_iff.2 fun gap => ?_
    simp only [isGap, Bool.or_eq_true, beq_iff_eq] at gap
    rcases gap with ((rfl | rfl) | rfl) | rfl <;> exact absurd digit (by decide)
  · rintro rfl
    exact absurd digit (by decide)

private theorem valueOver_natural (inner : Option (Reading Json)) (n : Fin UInt64.size)
    {rest : List Char} (h : Delimited rest) :
    valueOver inner (decimal n.val ++ rest) = .ok (.number (.natural n), rest) := by
  obtain ⟨c, cs, eq, digit⟩ := exists_decimal_cons n.val
  obtain ⟨d, ds, same, gap, -⟩ := opens_decimal n.val
  have read := numeral_natural n h
  rw [eq] at same read ⊢
  cases same
  rw [List.cons_append] at read ⊢
  unfold valueOver
  rw [skipGaps_cons gap]
  split
  case h_1 nil => cases nil
  case h_9 cons =>
    cases cons
    rw [if_pos digit, read]
    rfl
  all_goals
    rename_i cons
    cases cons
    exact absurd digit (by decide)

private theorem valueOver_negative (inner : Option (Reading Json)) (n : Fin (UInt64.size / 2))
    {rest : List Char} (h : Delimited rest) :
    valueOver inner ('-' :: decimal (n.val + 1) ++ rest) = .ok (.number (.negative n), rest) := by
  rw [List.cons_append, valueOver, skipGaps_cons (by decide)]
  simp only [numeral_negative n h]
  rfl

private theorem valueOver_text (inner : Option (Reading Json)) (s : String) (rest : List Char) :
    valueOver inner (quote s ++ rest) = .ok (.text s, rest) := by
  rw [quote_append, valueOver, skipGaps_cons (by decide)]
  simp only [readText_escaped]
  rfl

/-- A value that is neither list nor object does not nest, so any depth is enough for it. -/
theorem readsBack_of_valueOver {v : Json} (opens : Opens v.spelling) (flat : v.nesting = 0)
    (read : ∀ inner rest, Delimited rest → valueOver inner (v.spelling ++ rest) = .ok (v, rest)) :
    ReadsBack value v v where
  opens := opens
  okWhen levels rest h := by
    have any : v.nesting ≤ levels := by
      rw [flat]
      exact Nat.zero_le levels
    cases levels with
    | zero => exact .of_ok (read none rest h) any
    | succ levels => exact .of_ok (read (some (value levels)) rest h) any

theorem readsBack_number {n : Number} (h : FloatFree (.number n)) :
    ReadsBack value (.number n) (.number n) := by
  cases n with
  | natural n =>
    exact readsBack_of_valueOver (opens_decimal _) rfl fun inner rest => valueOver_natural inner n
  | negative n =>
    exact readsBack_of_valueOver (opens_cons _) rfl fun inner rest => valueOver_negative inner n
  | float x => simp [FloatFree, Number.toInt?] at h

theorem readsLists_value : ReadsLists value value .list where
  none _ := ⟨_, rfl⟩
  inside _ _ := rfl

theorem readsBack_list {vs : List Json} (back : ∀ v ∈ vs, ReadsBack value v v) :
    ReadsBack value (.list vs) (.list vs) := by
  have items := @ReadsLists.readsBack Json value id Json value .list readsLists_value vs back
  rw [List.map_id] at items
  exact items

theorem readsBack_object {ms : List (String × Json)} (back : ∀ m ∈ ms, ReadsBack value m.2 m.2) :
    ReadsBack value (.object ms) (.object ms) where
  opens := by
    rw [spelling_object]
    exact opens_cons _
  okWhen levels rest _ := by
    rw [spelling_object, List.cons_append, nesting]
    refine OkWhen.level (r := fun levels => value levels _) ?_ (fun levels => ?_) levels
    · exact ⟨_, rfl⟩
    · have enough := Nat.lt_succ_of_le (length_le_objectTail ms rest)
      exact (okWhen_object back levels enough rest).map fun p => (Json.object p.1, p.2)

mutual

/-- Every value without floating-point numbers is read back. -/
theorem readsBack_value : ∀ v : Json, FloatFree v → ReadsBack value v v
  | .null, _ => readsBack_of_valueOver (opens_cons _) rfl fun _ _ _ => rfl
  | .bool true, _ => readsBack_of_valueOver (opens_cons _) rfl fun _ _ _ => rfl
  | .bool false, _ => readsBack_of_valueOver (opens_cons _) rfl fun _ _ _ => rfl
  | .number _, h => readsBack_number h
  | .text s, _ =>
    readsBack_of_valueOver (opens_cons _) rfl fun inner rest _ => valueOver_text inner s rest
  | .list vs, h => readsBack_list (readsBack_of_mem_items vs h)
  | .object ms, h => readsBack_object (readsBack_of_mem_members ms h)

private theorem readsBack_of_mem_items :
    ∀ vs : List Json, ItemsFloatFree vs → ∀ v ∈ vs, ReadsBack value v v
  | [], _, v, hv => absurd hv List.not_mem_nil
  | w :: rest, h, v, hv => by
    rcases List.mem_cons.1 hv with same | hv
    · rw [same]
      exact readsBack_value w h.1
    · exact readsBack_of_mem_items rest h.2 v hv

private theorem readsBack_of_mem_members : ∀ ms : List (String × Json), MembersFloatFree ms →
    ∀ m ∈ ms, ReadsBack value m.2 m.2
  | [], _, m, hm => absurd hm List.not_mem_nil
  | (k, w) :: rest, h, m, hm => by
    rcases List.mem_cons.1 hm with same | hm
    · rw [same]
      exact readsBack_value w h.1
    · exact readsBack_of_mem_members rest h.2 m hm

end

end EventLineage.Json
