import EventLineage.Proofs.Json.Numbers
import EventLineage.Proofs.Json.Yields

/-! # How far a reader gets in a written text

Whatever a reader makes of a written value, it gets to the end of the value, or else it stops within
a number. In the second case no reader goes on from there in a list or in an object, because neither
a comma nor a bracket stands there. So a text that is read as a whole is read value by value, even
where a number is read as another one. -/
namespace EventLineage.Json
open Text

/-! ## Readers that get past a value -/

/-- A reader is behind a value: at what follows it, or else within a number of it. -/
def Behind (rest left : List Char) : Prop := left = rest ∨ ∃ c ∈ left.head?, inNumeral c = true

private theorem not_inNumeral_of_ends {c : Char} (h : c = ',' ∨ c = ']' ∨ c = '}') :
    inNumeral c = false := by
  rcases h with rfl | rfl | rfl <;> decide

private theorem behind_of_passes {cs rest left : List Char} (numeric : Numeric cs)
    (delimited : Delimited rest) (h : Passes (cs ++ rest) left) : Behind rest left := by
  obtain ⟨used, same, all⟩ := h
  rcases List.append_eq_append_iff.1 same with ⟨unread, rfl, rfl⟩ | ⟨more, rfl, rfl⟩
  · cases unread with
    | nil => exact .inl rfl
    | cons c unread => exact .inr ⟨c, rfl, numeric c (List.mem_append_right _ List.mem_cons_self)⟩
  · cases more with
    | nil => exact .inl rfl
    | cons c more =>
      have inside := all c (List.mem_append_right _ List.mem_cons_self)
      rw [not_inNumeral_of_ends (delimited c rfl)] at inside
      cases inside

/-- Wherever the spelling of a value stands, what a reader takes it for has the property, and the
reader gets behind it. -/
structure ReadsPast (read : Nat → Reading α) (v : Json) (P : α → Prop) : Prop where
  opens : Opens v.spelling
  past : ∀ {levels rest a left}, Delimited rest → read levels (v.spelling ++ rest) = .ok (a, left) →
    P a ∧ Behind rest left

theorem ReadsPast.imp {read : Nat → Reading α} {v : Json} {P Q : α → Prop} (h : ReadsPast read v P)
    (passed : ∀ a, P a → Q a) : ReadsPast read v Q where
  opens := h.opens
  past delimited read := (h.past delimited read).imp_left (passed _)

theorem ReadsPast.map {read : Nat → Reading α} {v : Json} {P : α → Prop} {Q : β → Prop} {f : α → β}
    (h : ReadsPast read v P) (passed : ∀ a, P a → Q (f a)) :
    ReadsPast (fun levels cs => (read levels cs).map fun p => (f p.1, p.2)) v Q where
  opens := h.opens
  past delimited read := by
    obtain ⟨⟨a, left⟩, inner, same⟩ := map_eq_ok_iff.1 read
    cases same
    exact (h.past delimited inner).imp_left (passed a)

/-- What is read back is read as what was written. -/
theorem ReadsBack.readsPast {read : Nat → Reading α} {v : Json} {a : α} (h : ReadsBack read v a) :
    ReadsPast read v (· = a) where
  opens := h.opens
  past {levels rest b left} delimited got := by
    have back := h.okWhen levels rest delimited
    by_cases fits : v.nesting ≤ levels
    · rw [back.ok fits] at got
      cases got
      exact ⟨rfl, .inl rfl⟩
    · obtain ⟨unread, stop⟩ := back.tooDeep fits
      rw [stop] at got
      cases got

/-! ## Numbers as values -/

theorem ne_of_inNumeral {c d : Char} (h : inNumeral c = true)
    (other : inNumeral d = false) : c ≠ d := by
  rintro rfl
  rw [h] at other
  cases other

theorem not_isGap_of_inNumeral {c : Char} (h : inNumeral c = true) : isGap c = false := by
  refine Bool.eq_false_iff.2 fun gap => ?_
  simp only [isGap, Bool.or_eq_true, beq_iff_eq] at gap
  rcases gap with ((rfl | rfl) | rfl) | rfl <;> exact absurd h (by decide)

private theorem exists_spelling_cons (n : Number) :
    ∃ c cs, n.spelling = c :: cs ∧ inNumeral c = true := by
  cases shape : n.spelling with
  | nil => exact absurd shape (spelling_ne_nil n)
  | cons c cs => exact ⟨c, cs, rfl, numeric_spelling n c (shape ▸ List.mem_cons_self)⟩

private theorem opens_spelling_number (n : Number) : Opens n.spelling := by
  obtain ⟨c, cs, shape, numeral⟩ := exists_spelling_cons n
  rw [shape]
  exact opens_cons cs (not_isGap_of_inNumeral numeral) (ne_of_inNumeral numeral (by decide))

private theorem passes_valueOver {inner : Option (Reading Json)} {c : Char} {cs left : List Char}
    {v : Json} (numeral : inNumeral c = true) (h : valueOver inner (c :: cs) = .ok (v, left)) :
    Passes (c :: cs) left := by
  unfold valueOver at h
  rw [skipGaps_cons (not_isGap_of_inNumeral numeral)] at h
  split at h
  case h_6 cons =>
    cases cons
    obtain ⟨⟨n, _⟩, read, same⟩ := map_eq_ok_iff.1 h
    cases same
    exact .cons numeral (passes_numeral read)
  case h_9 cons =>
    cases cons
    split at h
    · obtain ⟨⟨n, _⟩, read, same⟩ := map_eq_ok_iff.1 h
      cases same
      exact passes_numeral read
    · cases h
  case h_1 => cases h
  all_goals
    rename_i cons
    cases cons
    exact absurd numeral (by decide)

private theorem exists_valueOver (levels : Nat) : ∃ inner, value levels = valueOver inner := by
  cases levels with
  | zero => exact ⟨none, rfl⟩
  | succ levels => exact ⟨some (value levels), rfl⟩

theorem readsPast_number (n : Number) : ReadsPast value (.number n) fun _ => True where
  opens := opens_spelling_number n
  past {levels rest v left} delimited read := by
    obtain ⟨inner, same⟩ := exists_valueOver levels
    obtain ⟨c, cs, shape, numeral⟩ := exists_spelling_cons n
    have numeric := numeric_spelling n
    rw [same, Json.spelling, shape] at read
    rw [shape] at numeric
    exact ⟨trivial, behind_of_passes numeric delimited (passes_valueOver numeral read)⟩

/-! ## Lists and objects -/

/-- Whoever does not go on from within a number goes on from the end of the value. -/
theorem Behind.eq_of_apart {rest left : List Char} (behind : Behind rest left)
    (apart : ∀ c cs, left = c :: cs → inNumeral c = true → False) : left = rest := by
  rcases behind with same | ⟨c, head, numeral⟩
  · exact same
  · obtain ⟨cs, shape⟩ := List.head?_eq_some_iff.1 head
    exact (apart c cs shape numeral).elim

private theorem eq_of_anotherItem {rest left cs : List Char} {more : Bool}
    (behind : Behind rest left) (h : anotherItem false left = .ok (more, cs)) : left = rest := by
  apply behind.eq_of_apart
  rintro c cs' rfl numeral
  rw [anotherItem, skipGaps_cons (not_isGap_of_inNumeral numeral)] at h
  simp [ne_of_inNumeral numeral (show inNumeral ']' = false by decide),
    ne_of_inNumeral numeral (show inNumeral ',' = false by decide)] at h

theorem eq_of_anotherKey {rest left cs : List Char} {more : Bool} (behind : Behind rest left)
    (h : anotherKey false left = .ok (more, cs)) : left = rest := by
  apply behind.eq_of_apart
  rintro c cs' rfl numeral
  rw [anotherKey, skipGaps_cons (not_isGap_of_inNumeral numeral)] at h
  simp [ne_of_inNumeral numeral (show inNumeral '}' = false by decide),
    ne_of_inNumeral numeral (show inNumeral ',' = false by decide)] at h

section Lists

variable {item : Nat → Reading α} {P : α → Prop} {vs : List Json} {levels fuel : Nat}
  {rest left : List Char}

private theorem eq_of_items {acc as : List α} {cs after : List Char} (behind : Behind rest after)
    (read : items (item levels) fuel false acc after = .ok (as, cs)) : after = rest := by
  cases fuel with
  | zero => cases read
  | succ fuel =>
    obtain ⟨⟨more, _⟩, start, -⟩ := bind_eq_ok_iff.1 read
    exact eq_of_anotherItem behind start

/-- Once an item is about to be read, the end of the list is found if it is found behind the
item. -/
theorem left_items_of_item {v : Json} (item_past : ReadsPast item v P) {first : Bool}
    {acc as : List α} {cs : List Char}
    (start : anotherItem first cs = .ok (true, v.spelling ++ (itemsSpelling vs ++ rest)))
    (tail : ∀ {fuel acc},
      items (item levels) fuel false acc (itemsSpelling vs ++ rest) = .ok (as, left) →
      left = ']' :: rest)
    (read : items (item levels) fuel first acc cs = .ok (as, left)) : left = ']' :: rest := by
  cases fuel with
  | zero => cases read
  | succ fuel =>
    obtain ⟨⟨more, _⟩, start', read⟩ := bind_eq_ok_iff.1 read
    rw [start] at start'
    cases start'
    obtain ⟨⟨a, after⟩, inner, read⟩ := bind_eq_ok_iff.1 read
    obtain ⟨-, behind⟩ := item_past.past (delimited_itemsSpelling vs rest) inner
    rw [eq_of_items behind read] at read
    exact tail read

private theorem left_items_nil {first : Bool} {acc as : List α}
    (read : items (item levels) fuel first acc (']' :: rest) = .ok (as, left)) :
    left = ']' :: rest := by
  cases fuel with
  | zero => cases read
  | succ fuel =>
    cases read
    rfl

/-- The induction is on the items. -/
theorem left_items (each : ∀ v ∈ vs, ReadsPast item v P) {acc as : List α}
    (read : items (item levels) fuel false acc (itemsSpelling vs ++ rest) = .ok (as, left)) :
    left = ']' :: rest := by
  induction vs generalizing fuel acc with
  | nil => exact left_items_nil read
  | cons v vs ih =>
    have item_past := each v List.mem_cons_self
    refine left_items_of_item item_past ?_ (ih fun w hw => each w (List.mem_cons_of_mem _ hw)) read
    simp only [itemsSpelling, List.cons_append, List.append_assoc,
      anotherItem_comma (item_past.opens.append _)]

private theorem left_inList (each : ∀ v ∈ vs, ReadsPast item v P) {as : List α}
    (read : inList (items (item levels) fuel true []) (listTail vs ++ rest) = .ok (as, left)) :
    left = rest := by
  obtain ⟨mid, inner, ended⟩ := exists_end_of_inList read
  have bracket : mid = ']' :: rest := by
    cases vs with
    | nil => exact left_items_nil inner
    | cons v vs =>
      have item_past := each v List.mem_cons_self
      refine left_items_of_item item_past ?_ (left_items fun w hw =>
        each w (List.mem_cons_of_mem _ hw)) inner
      simp only [listTail, List.append_assoc, anotherItem_first (item_past.opens.append _)]
  rw [bracket] at ended
  cases ended
  rfl

/-- The reader takes the bracket of a list, and reads its items with one level less. -/
theorem ReadsLists.readsPast {read : Nat → Reading β} {make : List α → β}
    (h : ReadsLists read item make) (each : ∀ v ∈ vs, ReadsPast item v P) :
    ReadsPast read (.list vs) fun _ => True where
  opens := by
    rw [spelling_list]
    exact opens_cons _
  past {levels rest b left} delimited got := by
    refine ⟨trivial, .inl ?_⟩
    rw [spelling_list, List.cons_append] at got
    cases levels with
    | zero =>
      obtain ⟨unread, stop⟩ := h.none (listTail vs ++ rest)
      rw [stop] at got
      cases got
    | succ levels =>
      rw [h.inside] at got
      obtain ⟨⟨as, left⟩, inner, same⟩ := map_eq_ok_iff.1 got
      cases same
      exact left_inList each inner

end Lists

section Objects

variable {item : Nat → Reading Json} {P : Json → Prop} {ms : List (String × Json)}
  {levels fuel : Nat} {rest left : List Char}

private theorem eq_of_members {acc found : List (String × Json)} {cs after : List Char}
    (behind : Behind rest after)
    (read : members (item levels) fuel false acc after = .ok (found, cs)) : after = rest := by
  cases fuel with
  | zero => cases read
  | succ fuel =>
    obtain ⟨⟨more, _⟩, start, -⟩ := bind_eq_ok_iff.1 read
    exact eq_of_anotherKey behind start

private theorem left_members_of_member {k : String} {v : Json} (member_past : ReadsPast item v P)
    {first : Bool} {acc found : List (String × Json)} {cs : List Char}
    (start : anotherKey first cs =
      .ok (true, k.toList.flatMap escaped ++
        '"' :: ':' :: (v.spelling ++ (membersSpelling ms ++ rest))))
    (tail : ∀ {fuel acc},
      members (item levels) fuel false acc (membersSpelling ms ++ rest) = .ok (found, left) →
      left = '}' :: rest)
    (read : members (item levels) fuel first acc cs = .ok (found, left)) : left = '}' :: rest := by
  cases fuel with
  | zero => cases read
  | succ fuel =>
    simp only [members, start, readText_escaped, colon_cons, bind, Except.bind, ↓reduceIte] at read
    split at read
    · cases read
    · rename_i a inner
      obtain ⟨-, behind⟩ := member_past.past (delimited_membersSpelling ms rest) inner
      rw [eq_of_members behind read] at read
      exact tail read

private theorem left_members_nil {first : Bool} {acc found : List (String × Json)}
    (read : members (item levels) fuel first acc ('}' :: rest) = .ok (found, left)) :
    left = '}' :: rest := by
  cases fuel with
  | zero => cases read
  | succ fuel =>
    cases read
    rfl

/-- The induction is on the members. -/
theorem left_members (each : ∀ m ∈ ms, ReadsPast item m.2 P) {acc found : List (String × Json)}
    (read : members (item levels) fuel false acc (membersSpelling ms ++ rest) = .ok (found, left)) :
    left = '}' :: rest := by
  induction ms generalizing fuel acc with
  | nil => exact left_members_nil read
  | cons m ms ih =>
    obtain ⟨k, v⟩ := m
    have member_past := each (k, v) List.mem_cons_self
    refine left_members_of_member member_past (anotherKey_membersSpelling k v ms rest)
      (fun read => ?_) read
    exact ih (fun w hw => each w (List.mem_cons_of_mem _ hw)) read

private theorem left_inObject (each : ∀ m ∈ ms, ReadsPast item m.2 P) {found : List (String × Json)}
    (read : inObject (members (item levels) fuel true []) (objectTail ms ++ rest) =
      .ok (found, left)) : left = rest := by
  obtain ⟨mid, inner, ended⟩ := exists_end_of_inObject read
  have brace : mid = '}' :: rest := by
    cases ms with
    | nil => exact left_members_nil inner
    | cons m ms =>
      obtain ⟨k, v⟩ := m
      have member_past := each (k, v) List.mem_cons_self
      refine left_members_of_member member_past (anotherKey_objectTail k v ms rest)
        (fun read => ?_) inner
      exact left_members (fun w hw => each w (List.mem_cons_of_mem _ hw)) read
  rw [brace] at ended
  cases ended
  rfl

theorem readsPast_object (each : ∀ m ∈ ms, ReadsPast value m.2 P) :
    ReadsPast value (.object ms) fun _ => True where
  opens := by
    rw [spelling_object]
    exact opens_cons _
  past {levels rest b left} delimited got := by
    refine ⟨trivial, .inl ?_⟩
    rw [spelling_object, List.cons_append] at got
    cases levels with
    | zero => cases got
    | succ levels =>
      obtain ⟨⟨found, left⟩, inner, same⟩ := map_eq_ok_iff.1 got
      cases same
      exact left_inObject each inner

end Objects

/-! ## Values -/

mutual

/-- Every reading of a value gets past the value that was written. -/
theorem readsPast_value : ∀ v : Json, ReadsPast value v fun _ => True
  | .null => (readsBack_value .null trivial).readsPast.imp fun _ _ => trivial
  | .bool b => (readsBack_value (.bool b) trivial).readsPast.imp fun _ _ => trivial
  | .number n => readsPast_number n
  | .text s => (readsBack_value (.text s) trivial).readsPast.imp fun _ _ => trivial
  | .list vs => readsLists_value.readsPast (readsPast_of_mem_items vs)
  | .object ms => readsPast_object (readsPast_of_mem_members ms)

private theorem readsPast_of_mem_items : ∀ vs : List Json, ∀ v ∈ vs, ReadsPast value v fun _ => True
  | [], v, hv => absurd hv List.not_mem_nil
  | w :: rest, v, hv => by
    rcases List.mem_cons.1 hv with same | hv
    · rw [same]
      exact readsPast_value w
    · exact readsPast_of_mem_items rest v hv

private theorem readsPast_of_mem_members :
    ∀ ms : List (String × Json), ∀ m ∈ ms, ReadsPast value m.2 fun _ => True
  | [], m, hm => absurd hm List.not_mem_nil
  | (k, w) :: rest, m, hm => by
    rcases List.mem_cons.1 hm with same | hm
    · rw [same]
      exact readsPast_value w
    · exact readsPast_of_mem_members rest m hm

end

end EventLineage.Json
