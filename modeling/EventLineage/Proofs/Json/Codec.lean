import EventLineage.Json.Codec
import EventLineage.Proofs.Json.Order
import EventLineage.Proofs.Json.Reading
import EventLineage.Proofs.Success

/-! # Codecs read back what they write

A codec keeps something if it reads it back from the JSON value that it writes, brought into order,
and from the spelling of that value, as far as the value nests no deeper than is allowed and holds
no floating-point number. Each way of making a codec from others preserves this. -/
namespace EventLineage.Codec
open Json

/-- What the codec writes for `a` is read back as `a` from a value, and from a text if it holds no
floating-point number. -/
structure Keeps (c : Codec α) (a : α) : Prop where
  value : c.ofJson (c.write a).ordered = .ok a
  text : (c.write a).FloatFree → Json.ReadsBack c.read (c.write a) a

/-- What the codec writes for `a` is read back as `a` from a value and from a text. -/
structure ReadsBack (c : Codec α) (a : α) : Prop extends c.Keeps a where
  floatFree : (c.write a).FloatFree

/-! ## Whole values and whole texts -/

section Whole

variable {c : Codec α} {a : α}

theorem fromText_eq_ok_iff {s : String} : c.fromText s = .ok a ↔
    ∃ rest, c.read allowedLevels s.toList = .ok (a, rest) ∧ endOfText rest = .ok () := by
  simp only [fromText, readWhole]
  constructor
  · intro loaded
    split at loaded
    · cases loaded
    · rename_i b rest read
      split at loaded
      · cases loaded
      · rename_i ended
        cases loaded
        exact ⟨rest, read, ended⟩
  · rintro ⟨rest, read, ended⟩
    simp only [read, ended]

theorem fromValue_eq_ok_iff {v : Payload} : c.fromValue v = .ok a ↔ c.ofJson v.json = .ok a := by
  simp only [fromValue]
  cases c.ofJson v.json <;> simp

theorem Keeps.fromValue_toValue (h : c.Keeps a) : c.fromValue (c.toValue a) = .ok a := by
  simp only [fromValue, toValue, Payload.ofJson, h.value]

theorem ReadsBack.fromText_toText (h : c.ReadsBack a) (fits : (c.write a).nesting ≤ allowedLevels) :
    c.fromText (c.toText a) = .ok a := by
  have text := h.text h.floatFree
  have read := (text.okWhen allowedLevels [] delimited_nil).ok fits
  rw [List.append_nil] at read
  simp only [fromText, toText, render, readWhole, String.toList_ofList, read]
  rfl

theorem ReadsBack.fromText_toText_tooDeep (h : c.ReadsBack a)
    (deep : allowedLevels < (c.write a).nesting) :
    ∃ place, c.fromText (c.toText a) = .error ⟨Cause.tooDeep.text, some place⟩ := by
  have text := h.text h.floatFree
  obtain ⟨unread, stop⟩ := (text.okWhen allowedLevels [] delimited_nil).tooDeep
    (Nat.not_le_of_lt deep)
  rw [List.append_nil] at stop
  simp only [fromText, toText, render, readWhole, String.toList_ofList, stop]
  exact ⟨_, rfl⟩

theorem ReadsBack.fromText_toText_iff (h : c.ReadsBack a) :
    c.fromText (c.toText a) = .ok a ↔ (c.write a).nesting ≤ allowedLevels := by
  refine ⟨fun loaded => ?_, h.fromText_toText⟩
  by_cases fits : (c.write a).nesting ≤ allowedLevels
  · exact fits
  · obtain ⟨place, stop⟩ := h.fromText_toText_tooDeep (Nat.lt_of_not_le fits)
    rw [loaded] at stop
    cases stop

private theorem readWhole_map (read : Nat → Reading α) (f : α → β) (s : String) :
    readWhole (fun levels cs => (read levels cs).map fun p => (f p.1, p.2)) s =
      (readWhole read s).map f := by
  simp only [readWhole]
  cases read allowedLevels s.toList with
  | error stop => rfl
  | ok found =>
    simp only [Except.map]
    cases endOfText found.2 <;> rfl

theorem fromText_map (c : Codec α) (there : α → β) (back : β → α) (s : String) :
    (c.map there back).fromText s = (c.fromText s).map there := readWhole_map c.read there s

theorem fromValue_map (c : Codec α) (there : α → β) (back : β → α) (v : Payload) :
    (c.map there back).fromValue v = (c.fromValue v).map there := by
  simp only [fromValue, map, Decoder.map]
  cases c.ofJson v.json <;> rfl

end Whole

/-! ## Texts and numbers -/

theorem TextForm.read_quote {w : TextForm α} {s : String} {a : α} (h : w.parse s = .ok a)
    (rest : List Char) : w.read (quote s ++ rest) = .ok (a, rest) := by
  rw [quote_append, TextForm.read, skipGaps_cons (by decide)]
  simp only [readText_escaped, bind, Except.bind, h]

theorem keeps_wording {w : Wording α} {a : α} (h : w.parse (w.print a) = .ok a) :
    w.codec.Keeps a where
  value := h
  text _ :=
    { opens := opens_cons _
      okWhen := fun levels rest _ => .of_ok (TextForm.read_quote h rest) (Nat.zero_le levels) }

theorem keeps_string (s : String) : string.Keeps s := keeps_wording rfl

theorem fit_whole {expected : String} {ofInt : Int → Option α} {a : α} {n : Number} {i : Int}
    (whole : n.toInt? = some i) (h : ofInt i = some a) : fit expected ofInt n = .ok a := by
  simp only [fit, whole, h]

private theorem read_integer {expected : String} {ofInt : Int → Option α} (number : α → Number)
    {a : α} {n : Number} {i : Int} (whole : n.toInt? = some i) (back : ofInt i = some a)
    (levels : Nat) {rest : List Char} (delimited : Delimited rest) :
    (integer expected ofInt number).read levels (n.spelling ++ rest) = .ok (a, rest) := by
  have fits : fit expected ofInt n = .ok a := fit_whole whole back
  cases n with
  | natural n =>
    obtain ⟨c, cs, eq, digit⟩ := exists_decimal_cons n.val
    obtain ⟨d, ds, same, gap, -⟩ := opens_decimal n.val
    have read := numeral_natural n delimited
    rw [Number.spelling]
    rw [eq] at same read ⊢
    cases same
    rw [List.cons_append] at read ⊢
    simp only [integer, skipGaps_cons gap]
    split
    · rename_i minus
      cases minus
      exact absurd digit (by decide)
    · rename_i cons
      cases cons
      simp only [digit, ↓reduceIte, read, bind, Except.bind, fits]
    · rename_i nil
      cases nil
  | negative n =>
    have gap : isGap '-' = false := by decide
    rw [Number.spelling, List.cons_append]
    simp only [integer, skipGaps_cons gap, numeral_negative n delimited, bind, Except.bind, fits]
  | float x => cases whole

private theorem opens_number {n : Number} {i : Int} (whole : n.toInt? = some i) :
    Opens n.spelling := by
  cases n with
  | natural n => exact opens_decimal _
  | negative n => exact opens_cons _
  | float x => cases whole

theorem keeps_integer {expected : String} {ofInt : Int → Option α} {number : α → Number} {a : α}
    {i : Int} (whole : (number a).toInt? = some i) (back : ofInt i = some a) :
    (integer expected ofInt number).Keeps a where
  value := fit_whole whole back
  text _ :=
    { opens := opens_number whole
      okWhen := fun levels _ delimited =>
        .of_ok (read_integer number whole back levels delimited) (Nat.zero_le levels) }

/-- A type has the integers of a range as its values, and each of them is written as itself. -/
structure Ranged (ofInt : Int → Option α) (number : α → Number) (low high : Int) : Prop where
  back : ∀ a, ∃ i, (number a).toInt? = some i ∧ ofInt i = some a
  range : ∀ i, (∃ a, ofInt i = some a) ↔ low ≤ i ∧ i < high

theorem Ranged.of_bounds {low high : Int} {make : Int → α} {number : α → Number} {toInt : α → Int}
    (whole : ∀ a, (number a).toInt? = some (toInt a)) (back : ∀ a, make (toInt a) = a)
    (inside : ∀ a, low ≤ toInt a ∧ toInt a < high) :
    Ranged (fun i => if low ≤ i ∧ i < high then some (make i) else none) number low high where
  back a := by
    refine ⟨toInt a, whole a, ?_⟩
    rw [if_pos (inside a), back]
  range i := by
    split
    · rename_i bounds
      exact iff_of_true ⟨make i, rfl⟩ bounds
    · rename_i outside
      exact iff_of_false nofun outside

theorem Ranged.keeps {expected : String} {ofInt : Int → Option α} {number : α → Number}
    {low high : Int} (h : Ranged ofInt number low high) (a : α) :
    (integer expected ofInt number).Keeps a := by
  obtain ⟨i, whole, back⟩ := h.back a
  exact keeps_integer whole back

theorem ranged_unsigned8 :
    Ranged (fun i => if 0 ≤ i ∧ i < UInt8.size then some (UInt8.ofNat i.toNat) else none)
      (fun n => .natural (n.toFin.castLE (by decide))) 0 UInt8.size :=
  .of_bounds (fun _ => rfl) (fun _ : UInt8 => UInt8.ofNat_toNat) fun n =>
    ⟨Int.natCast_nonneg _, Int.ofNat_lt.2 n.toFin.isLt⟩

theorem ranged_unsigned64 :
    Ranged (fun i => if 0 ≤ i ∧ i < UInt64.size then some (UInt64.ofNat i.toNat) else none)
      (fun n => .natural n.toFin) 0 UInt64.size :=
  .of_bounds (fun _ => rfl) (fun _ : UInt64 => UInt64.ofNat_toNat) fun n =>
    ⟨Int.natCast_nonneg _, Int.ofNat_lt.2 n.toFin.isLt⟩

private theorem toInt?_signedNumber (n : Int64) : (signedNumber n).toInt? = some n.toInt := by
  unfold signedNumber
  split
  · rename_i below
    simp only [Number.toInt?, Option.some.injEq]
    omega
  · rename_i notBelow
    simp only [Number.toInt?, Option.some.injEq]
    omega

theorem ranged_signed64 :
    Ranged
      (fun i =>
        if -9223372036854775808 ≤ i ∧ i < 9223372036854775808 then some (.ofInt i) else none)
      signedNumber (-9223372036854775808) 9223372036854775808 :=
  .of_bounds toInt?_signedNumber Int64.ofInt_toInt fun n => ⟨n.le_toInt, n.toInt_lt⟩

theorem keeps_unsigned64 (n : UInt64) : unsigned64.Keeps n := ranged_unsigned64.keeps n

/-! ## Values that stand for others -/

theorem TextForm.parse_map {w : TextForm α} {s : String} {a : α}
    (h : w.parse s = .ok a) (f : α → β) :
    (w.map f).parse s = .ok (f a) := by
  simp only [TextForm.map, h, Except.map]

theorem Decoder.ofJson_map {d : Decoder α} {v : Json} {a : α} (h : d.ofJson v = .ok a) (f : α → β) :
    (d.map f).ofJson v = .ok (f a) := by
  simp only [Decoder.map, h, Except.map]

theorem Keeps.map {c : Codec α} {there : α → β} {back : β → α} {b : β} (h : c.Keeps (back b))
    (inverse : there (back b) = b) : (c.map there back).Keeps b where
  value := by
    show (c.ofJson (c.write (back b)).ordered).map there = _
    rw [h.value, Except.map, inverse]
  text floatFree := by
    have mapped := (h.text floatFree).map there
    rw [inverse] at mapped
    exact mapped

theorem Keeps.checked {c : Codec α} {check : α → Except String β} {back : β → α} {b : β}
    (h : c.Keeps (back b)) (passes : check (back b) = .ok b) : (c.checked check back).Keeps b where
  value := by
    show c.ofJson (c.write (back b)).ordered >>= check = _
    rw [h.value]
    exact passes
  text floatFree :=
    { opens := (h.text floatFree).opens
      okWhen := by
        intro levels rest delimited
        have inner := (h.text floatFree).okWhen levels rest delimited
        refine ⟨fun fits => ?_, fun deep => ?_⟩
        · show (c.checked check back).read levels ((c.write (back b)).spelling ++ rest) = _
          simp only [Codec.checked, inner.ok fits, bind, Except.bind, passes]
        · obtain ⟨unread, stop⟩ := inner.tooDeep deep
          refine ⟨unread, ?_⟩
          show (c.checked check back).read levels ((c.write (back b)).spelling ++ rest) = _
          simp only [Codec.checked, stop, bind, Except.bind] }

theorem exists_of_checked_ofJson {c : Codec α} {check : α → Except String β} {back : β → α}
    {v : Json} {b : β} (h : (c.checked check back).ofJson v = .ok b) :
    ∃ a, c.ofJson v = .ok a ∧ check a = .ok b :=
  bind_eq_ok_iff.1 h

theorem exists_of_checked_read {c : Codec α} {check : α → Except String β} {back : β → α}
    {levels : Nat} {cs rest : List Char} {b : β}
    (h : (c.checked check back).read levels cs = .ok (b, rest)) :
    ∃ a, c.read levels cs = .ok (a, rest) ∧ check a = .ok b := by
  obtain ⟨⟨a, left⟩, read, passed⟩ := bind_eq_ok_iff.1 h
  simp only at passed
  split at passed
  · rename_i b' found
    cases passed
    exact ⟨a, read, found⟩
  · cases passed

/-! ## Values that may be missing -/

/-- The value cannot be taken for null. -/
structure Present (v : Json) : Prop where
  value : v.ordered ≠ .null
  text : v.spelling.head? ≠ some 'n'

theorem present_text (s : String) : Present (.text s) := ⟨nofun, by simp [spelling, quote]⟩

theorem present_number {n : Number} {i : Int} (whole : n.toInt? = some i) :
    Present (.number n) := by
  refine ⟨nofun, fun head => ?_⟩
  cases n with
  | natural n =>
    have digit := Text.isDigit_of_mem_decimal n.val 'n' (List.mem_of_mem_head? head)
    exact absurd digit (by decide)
  | negative n => exact absurd (Option.some.inj head) (by decide)
  | float x => cases whole

theorem keeps_none (c : Codec α) : c.optional.Keeps none where
  value := rfl
  text _ :=
    { opens := opens_cons _
      okWhen := fun levels _ _ => .of_ok rfl (Nat.zero_le levels) }

theorem Keeps.some {c : Codec α} {a : α} (h : c.Keeps a) (present : Present (c.write a)) :
    c.optional.Keeps (some a) where
  value := by
    have value := h.value
    show c.optional.ofJson (c.write a).ordered = _
    cases hv : (c.write a).ordered with
    | null => exact absurd hv present.value
    | bool | number | text | list | object =>
      rw [hv] at value
      show (c.ofJson _).map Option.some = _
      rw [value]
      rfl
  text floatFree :=
    { opens := (h.text floatFree).opens
      okWhen := by
        intro levels rest delimited
        have mapped := ((h.text floatFree).okWhen levels rest delimited).map
          fun p => (Option.some p.1, p.2)
        obtain ⟨d, ds, eq, gap, -⟩ := (h.text floatFree).opens
        have notNull := present.text
        show OkWhen _ (c.optional.read levels ((c.write a).spelling ++ rest)) _
        rw [eq] at mapped notNull ⊢
        rw [List.cons_append] at mapped ⊢
        unfold optional
        simp only [skipGaps_cons gap]
        split
        · rename_i null
          cases null
          exact absurd rfl notNull
        · exact mapped }

/-! ## Lists -/

private theorem mapM_ofJson {c : Codec α} {as : List α} (back : ∀ a ∈ as, c.Keeps a) :
    (orderedItems (as.map c.write)).mapM c.ofJson = .ok as := by
  induction as with
  | nil => rfl
  | cons a as ih =>
    have head := (back a List.mem_cons_self).value
    have tail := ih fun b hb => back b (List.mem_cons_of_mem _ hb)
    simp only [List.map_cons, orderedItems, List.mapM_cons, head, tail]
    rfl

theorem readsLists_list (c : Codec α) : ReadsLists c.list.read c.read id where
  none _ := ⟨_, rfl⟩
  inside levels cs := by
    show inList (items (c.read levels) (cs.length + 1) true []) cs = Except.map id _
    rw [Except.map_id]
    rfl

theorem keeps_list {c : Codec α} {as : List α} (back : ∀ a ∈ as, c.Keeps a) : c.list.Keeps as where
  value := mapM_ofJson back
  text floatFree := by
    apply (readsLists_list c).readsBack
    intro a ha
    exact (back a ha).text (itemsFloatFree_iff.1 floatFree _ (List.mem_map_of_mem ha))

/-! ## Payloads -/

theorem keeps_payload (p : Payload) : payload.Keeps p := by
  have back : Payload.ofJson p.json = p := Payload.ext (ordered_of_inOrder p.json p.inOrder)
  constructor
  · show Except.ok (Payload.ofJson p.json.ordered) = _
    rw [ordered_of_inOrder p.json p.inOrder, back]
  · intro floatFree
    have text := (readsBack_value p.json floatFree).map Payload.ofJson
    rw [back] at text
    exact text

end EventLineage.Codec
