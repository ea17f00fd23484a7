import EventLineage.Proofs.Json.Choice

/-! # What is known of what has been read

A decoder yields a property if whatever it reads from a text or from a value has it. The property
may depend on how many lists and objects may stand within each other there: what is read within a
list or an object has one less. Each way of making a decoder from others passes such properties
on. -/
namespace EventLineage
open Json

/-! ## Lists, objects and values -/

namespace Json

/-- What is read in a list has been read in front of its bracket. -/
theorem exists_end_of_inList {inner : Reading α} {cs rest : List Char} {a : α}
    (h : inList inner cs = .ok (a, rest)) :
    ∃ left, inner cs = .ok (a, left) ∧ endOfList left = .ok rest := by
  simp only [inList] at h
  split at h
  · rename_i b left read
    obtain ⟨_, ended, same⟩ := map_eq_ok_iff.1 h
    cases same
    exact ⟨left, read, ended⟩
  · cases h

private theorem exists_of_inList {inner : Reading α} {cs rest : List Char} {a : α}
    (h : inList inner cs = .ok (a, rest)) : ∃ left, inner cs = .ok (a, left) := by
  obtain ⟨left, read, -⟩ := exists_end_of_inList h
  exact ⟨left, read⟩

/-- The same for an object and its brace. -/
theorem exists_end_of_inObject {inner : Reading α} {cs rest : List Char} {a : α}
    (h : inObject inner cs = .ok (a, rest)) :
    ∃ left, inner cs = .ok (a, left) ∧ endOfObject left = .ok rest := by
  simp only [inObject] at h
  split at h
  · rename_i b left read
    obtain ⟨_, ended, same⟩ := map_eq_ok_iff.1 h
    cases same
    exact ⟨left, read, ended⟩
  · cases h

private theorem exists_of_inObject {inner : Reading α} {cs rest : List Char} {a : α}
    (h : inObject inner cs = .ok (a, rest)) : ∃ left, inner cs = .ok (a, left) := by
  obtain ⟨left, read, -⟩ := exists_end_of_inObject h
  exact ⟨left, read⟩

/-- An item of a list that has been read stood there before or was read as an item. -/
theorem mem_items {item : Reading α} {fuel : Nat} {first : Bool} {before as : List α}
    {cs rest : List Char} (h : items item fuel first before cs = .ok (as, rest)) :
    ∀ a ∈ as, a ∈ before ∨ ∃ cs rest, item cs = .ok (a, rest) := by
  induction fuel generalizing first before cs with
  | zero => cases h
  | succ fuel ih =>
    obtain ⟨⟨more, cs'⟩, -, h⟩ := bind_eq_ok_iff.1 h
    intro a ha
    cases more with
    | false =>
      cases h
      exact .inl (List.mem_reverse.1 ha)
    | true =>
      obtain ⟨⟨b, left⟩, read, h⟩ := bind_eq_ok_iff.1 h
      rcases ih h a ha with old | new
      · rcases List.mem_cons.1 old with rfl | older
        · exact .inr ⟨_, _, read⟩
        · exact .inl older
      · exact .inr new

/-- The same for the members of an object. -/
theorem mem_members {item : Reading α} {fuel : Nat} {first : Bool} {before ms : List (String × α)}
    {cs rest : List Char} (h : members item fuel first before cs = .ok (ms, rest)) :
    ∀ m ∈ ms, m ∈ before ∨ ∃ cs rest, item cs = .ok (m.2, rest) := by
  induction fuel generalizing first before cs with
  | zero => cases h
  | succ fuel ih =>
    obtain ⟨⟨more, cs'⟩, -, h⟩ := bind_eq_ok_iff.1 h
    intro m hm
    cases more with
    | false =>
      cases h
      exact .inl (List.mem_reverse.1 hm)
    | true =>
      obtain ⟨⟨k, afterKey⟩, -, h⟩ := bind_eq_ok_iff.1 h
      obtain ⟨afterColon, -, h⟩ := bind_eq_ok_iff.1 h
      obtain ⟨⟨b, left⟩, read, h⟩ := bind_eq_ok_iff.1 h
      rcases ih h m hm with old | new
      · rcases List.mem_cons.1 old with rfl | older
        · exact .inr ⟨_, _, read⟩
        · exact .inl older
      · exact .inr new

private theorem flat_of_map {x : Except Stop β} {f : β → Json × List Char} {v : Json}
    {rest : List Char} (flat : ∀ b, (f b).1.nesting = 0) (h : x.map f = .ok (v, rest)) :
    v.nesting = 0 := by
  obtain ⟨b, -, same⟩ := map_eq_ok_iff.1 h
  have whole := flat b
  rw [same] at whole
  exact whole

/-- A value is flat, or it is a list or an object of values that have been read in it. -/
theorem valueOver_cases {inner : Option (Reading Json)} {cs rest : List Char} {v : Json}
    (h : valueOver inner cs = .ok (v, rest)) :
    v.nesting = 0 ∨ ∃ item, inner = some item ∧
      ((∃ vs, v = .list vs ∧ ∀ w ∈ vs, ∃ cs rest, item cs = .ok (w, rest)) ∨
        ∃ ms, v = .object ms ∧ ∀ m ∈ ms, ∃ cs rest, item cs = .ok (m.2, rest)) := by
  simp only [valueOver] at h
  split at h
  · cases h
  · exact .inl (flat_of_map (fun _ => rfl) h)
  · exact .inl (flat_of_map (fun _ => rfl) h)
  · exact .inl (flat_of_map (fun _ => rfl) h)
  · exact .inl (flat_of_map (fun _ => rfl) h)
  · exact .inl (flat_of_map (fun _ => rfl) h)
  · split at h
    · rename_i item
      obtain ⟨⟨vs, left⟩, read, same⟩ := map_eq_ok_iff.1 h
      cases same
      obtain ⟨_, looped⟩ := exists_of_inList read
      refine .inr ⟨item, rfl, .inl ⟨vs, rfl, fun w hw => ?_⟩⟩
      exact (mem_items looped w hw).resolve_left List.not_mem_nil
    · cases h
  · split at h
    · rename_i item
      obtain ⟨⟨ms, left⟩, read, same⟩ := map_eq_ok_iff.1 h
      cases same
      obtain ⟨_, looped⟩ := exists_of_inObject read
      refine .inr ⟨item, rfl, .inr ⟨ms, rfl, fun m hm => ?_⟩⟩
      exact (mem_members looped m hm).resolve_left List.not_mem_nil
    · cases h
  · split at h
    · exact .inl (flat_of_map (fun _ => rfl) h)
    · cases h

theorem itemsNesting_le_iff {vs : List Json} {n : Nat} :
    itemsNesting vs ≤ n ↔ ∀ v ∈ vs, v.nesting ≤ n := by
  induction vs with
  | nil => simp [itemsNesting]
  | cons v vs ih => simp only [itemsNesting, Nat.max_le, ih, List.forall_mem_cons]

theorem membersNesting_le_iff {ms : List (String × Json)} {n : Nat} :
    membersNesting ms ≤ n ↔ ∀ m ∈ ms, m.2.nesting ≤ n := by
  induction ms with
  | nil => simp [membersNesting]
  | cons m ms ih =>
    obtain ⟨k, v⟩ := m
    simp only [membersNesting, Nat.max_le, ih, List.forall_mem_cons]

/-- What a list that fits holds fits with one level less. -/
theorem exists_of_list_fits {vs : List Json} {levels : Nat}
    (fits : (Json.list vs).nesting ≤ levels) :
    ∃ n, levels = n + 1 ∧ itemsNesting vs ≤ n := by
  cases levels with
  | zero => cases fits
  | succ n => exact ⟨n, rfl, Nat.le_of_succ_le_succ fits⟩

/-- The same for an object. -/
theorem exists_of_object_fits {ms : List (String × Json)} {levels : Nat}
    (fits : (Json.object ms).nesting ≤ levels) : ∃ n, levels = n + 1 ∧ membersNesting ms ≤ n := by
  cases levels with
  | zero => cases fits
  | succ n => exact ⟨n, rfl, Nat.le_of_succ_le_succ fits⟩

/-- No value is read that nests deeper than is allowed. -/
theorem nesting_of_value {levels : Nat} {cs rest : List Char} {v : Json}
    (h : value levels cs = .ok (v, rest)) : v.nesting ≤ levels := by
  induction levels generalizing cs rest v with
  | zero =>
    rcases valueOver_cases h with flat | ⟨item, inner, -⟩
    · exact Nat.le_of_eq flat
    · cases inner
  | succ levels ih =>
    rcases valueOver_cases h with flat | ⟨item, inner, ⟨vs, rfl, read⟩ | ⟨ms, rfl, read⟩⟩
    · exact flat ▸ Nat.zero_le _
    · cases inner
      apply Nat.succ_le_succ
      apply itemsNesting_le_iff.2
      intro w hw
      obtain ⟨_, _, one⟩ := read w hw
      exact ih one
    · cases inner
      apply Nat.succ_le_succ
      apply membersNesting_le_iff.2
      intro m hm
      obtain ⟨_, _, one⟩ := read m hm
      exact ih one

private theorem membersNesting_put_le (key : String) (v : Json) (ms : List (String × Json)) :
    membersNesting (put key v ms) ≤ max v.nesting (membersNesting ms) := by
  apply membersNesting_le_iff.2
  intro m hm
  rcases mem_put hm with rfl | old
  · exact Nat.le_max_left _ _
  · exact Nat.le_trans (membersNesting_le_iff.1 (Nat.le_refl _) m old) (Nat.le_max_right _ _)

mutual

/-- Bringing a value into order takes members away at most. -/
theorem nesting_ordered_le : ∀ v : Json, v.ordered.nesting ≤ v.nesting
  | .null => Nat.le_refl _
  | .bool _ => Nat.le_refl _
  | .number _ => Nat.le_refl _
  | .text _ => Nat.le_refl _
  | .list vs => Nat.succ_le_succ (itemsNesting_orderedItems_le vs)
  | .object ms => by
    have moved := membersNesting_orderedMembers_le ms []
    rw [membersNesting, Nat.zero_max] at moved
    exact Nat.succ_le_succ moved

private theorem itemsNesting_orderedItems_le :
    ∀ vs : List Json, itemsNesting (orderedItems vs) ≤ itemsNesting vs
  | [] => Nat.le_refl _
  | v :: vs => by
    have first := nesting_ordered_le v
    have others := itemsNesting_orderedItems_le vs
    simp only [orderedItems, itemsNesting]
    omega

private theorem membersNesting_orderedMembers_le : ∀ ms acc : List (String × Json),
    membersNesting (orderedMembers ms acc) ≤ max (membersNesting acc) (membersNesting ms)
  | [], acc => Nat.le_max_left _ _
  | (k, v) :: ms, acc => by
    have first := nesting_ordered_le v
    have put := membersNesting_put_le k v.ordered acc
    have others := membersNesting_orderedMembers_le ms (Json.put k v.ordered acc)
    simp only [orderedMembers, membersNesting]
    omega

end

end Json

/-! ## Decoders -/

/-- What is read from a text or from a value has the property, and so has what an absent member
stands for. -/
structure Decoder.Yields (d : Decoder α) (P : Nat → α → Prop) : Prop where
  text : ∀ {levels cs a rest}, d.read levels cs = .ok (a, rest) → P levels a
  value : ∀ {levels v a}, v.nesting ≤ levels → d.ofJson v = .ok a → P levels a
  absent : ∀ {levels a}, d.absent = some a → P levels a

namespace Decoder

theorem yields_true (d : Decoder α) : d.Yields fun _ _ => True where
  text _ := trivial
  value _ _ := trivial
  absent _ := trivial

theorem Yields.imp {d : Decoder α} {P Q : Nat → α → Prop} (h : d.Yields P)
    (passed : ∀ levels a, P levels a → Q levels a) : d.Yields Q where
  text read := passed _ _ (h.text read)
  value fits read := passed _ _ (h.value fits read)
  absent found := passed _ _ (h.absent found)

theorem Yields.map {d : Decoder α} {P : Nat → α → Prop} {Q : Nat → β → Prop} {there : α → β}
    (h : d.Yields P) (passed : ∀ levels a, P levels a → Q levels (there a)) :
    (d.map there).Yields Q where
  text read := by
    obtain ⟨⟨a, left⟩, inner, same⟩ := map_eq_ok_iff.1 read
    cases same
    exact passed _ a (h.text inner)
  value fits read := by
    obtain ⟨a, inner, rfl⟩ := map_eq_ok_iff.1 read
    exact passed _ a (h.value fits inner)
  absent found := by
    obtain ⟨a, inner, rfl⟩ := Option.map_eq_some_iff.1 found
    exact passed _ a (h.absent inner)

end Decoder

namespace TextForm

private theorem exists_of_read {w : TextForm α} {cs rest : List Char} {a : α}
    (h : w.read cs = .ok (a, rest)) :
    ∃ s, w.parse s = .ok a := by
  simp only [TextForm.read] at h
  split at h
  · obtain ⟨⟨s, left⟩, -, h⟩ := bind_eq_ok_iff.1 h
    simp only at h
    split at h
    · rename_i b parsed
      cases h
      exact ⟨s, parsed⟩
    · cases h
  · cases h

theorem exists_of_ofJson {w : TextForm α} {v : Json} {a : α} (h : w.ofJson v = .ok a) :
    ∃ s, v = .text s ∧ w.parse s = .ok a := by
  cases v with
  | text s => exact ⟨s, rfl, h⟩
  | null | bool | number | list | object => cases h

end TextForm

namespace Codec

theorem yields_map {c : Codec α} {P : Nat → α → Prop} {Q : Nat → β → Prop} {there : α → β}
    {back : β → α} (h : c.Yields P) (passed : ∀ levels a, P levels a → Q levels (there a)) :
    (c.map there back).Yields Q :=
  Decoder.Yields.map h passed

theorem yields_wording (w : Wording α) : w.codec.Yields fun _ a => ∃ s, w.parse s = .ok a where
  text read := TextForm.exists_of_read read
  value _ read := by
    obtain ⟨s, -, parsed⟩ := TextForm.exists_of_ofJson read
    exact ⟨s, parsed⟩
  absent found := by cases found

theorem yields_payload : payload.Yields fun levels p => p.json.nesting ≤ levels where
  text read := by
    obtain ⟨⟨v, left⟩, inner, same⟩ := map_eq_ok_iff.1 read
    cases same
    exact Nat.le_trans (nesting_ordered_le v) (nesting_of_value inner)
  value fits read := by
    cases read
    exact Nat.le_trans (nesting_ordered_le _) fits
  absent found := by cases found

/-- A check that is passed says something of what has been read. -/
theorem yields_checked {c : Codec α} {check : α → Except String β} {back : β → α}
    {P : Nat → α → Prop} {Q : Nat → β → Prop} (h : c.Yields P)
    (passed : ∀ levels a b, P levels a → check a = .ok b → Q levels b) :
    (c.checked check back).Yields Q where
  text read := by
    obtain ⟨a, inner, found⟩ := exists_of_checked_read read
    exact passed _ a _ (h.text inner) found
  value fits read := by
    obtain ⟨a, inner, found⟩ := exists_of_checked_ofJson read
    exact passed _ a _ (h.value fits inner) found
  absent found := by cases found

theorem yields_optional {c : Codec α} {P : Nat → α → Prop} (h : c.Yields P) :
    c.optional.Yields fun levels o => ∀ a, o = some a → P levels a where
  text read := by
    simp only [optional] at read
    split at read
    · obtain ⟨_, -, same⟩ := map_eq_ok_iff.1 read
      cases same
      intro a present
      cases present
    · obtain ⟨⟨b, left⟩, inner, same⟩ := map_eq_ok_iff.1 read
      cases same
      rintro a ⟨⟩
      exact h.text inner
  value fits read := by
    simp only [optional] at read
    split at read
    · cases read
      intro a present
      cases present
    · obtain ⟨b, inner, rfl⟩ := map_eq_ok_iff.1 read
      rintro a ⟨⟩
      exact h.value fits inner
  absent found := by
    cases found
    intro a present
    cases present

private theorem exists_of_mem_mapM {f : β → Except ε α} {bs : List β} {as : List α}
    (h : bs.mapM f = .ok as) {a : α} (ha : a ∈ as) : ∃ b ∈ bs, f b = .ok a := by
  have read : .ok a ∈ bs.map f := by
    rw [mapM_eq_ok_iff.1 h]
    exact List.mem_map_of_mem ha
  exact List.mem_map.1 read

theorem exists_mapM_eq_ok_iff {f : β → Except ε α} {bs : List β} :
    (∃ as, bs.mapM f = .ok as) ↔ ∀ b ∈ bs, ∃ a, f b = .ok a := by
  simp only [mapM_eq_ok_iff]
  constructor
  · rintro ⟨as, same⟩ b hb
    have read : f b ∈ as.map .ok := by
      rw [← same]
      exact List.mem_map_of_mem hb
    obtain ⟨a, -, read⟩ := List.mem_map.1 read
    exact ⟨a, read.symm⟩
  · intro each
    induction bs with
    | nil => exact ⟨[], rfl⟩
    | cons b bs ih =>
      obtain ⟨a, first⟩ := each b List.mem_cons_self
      obtain ⟨as, others⟩ := ih fun b' hb => each b' (List.mem_cons_of_mem _ hb)
      exact ⟨a :: as, by rw [List.map_cons, List.map_cons, first, others]⟩

theorem yields_list {c : Codec α} {P : Nat → α → Prop} (h : c.Yields P) :
    c.list.Yields fun levels as => ∃ n, levels = n + 1 ∧ ∀ a ∈ as, P n a where
  text {levels cs as rest} read := by
    simp only [list] at read
    split at read
    · cases read
    · obtain ⟨_, looped⟩ := exists_of_inList read
      refine ⟨_, rfl, fun a ha => ?_⟩
      obtain ⟨_, _, item⟩ := (mem_items looped a ha).resolve_left List.not_mem_nil
      exact h.text item
    · cases read
  value {levels v as} fits read := by
    simp only [list] at read
    split at read
    · obtain ⟨n, rfl, fit⟩ := exists_of_list_fits fits
      refine ⟨n, rfl, fun a ha => ?_⟩
      obtain ⟨v, hv, item⟩ := exists_of_mem_mapM read ha
      exact h.value (itemsNesting_le_iff.1 fit v hv) item
    · cases read
  absent found := by cases found

/-- What is loaded from a whole text has been read with all levels allowed. -/
theorem of_fromText {c : Codec α} {P : Nat → α → Prop} (h : c.Yields P) {s : String} {a : α}
    (loaded : c.fromText s = .ok a) : P allowedLevels a := by
  obtain ⟨rest, read, -⟩ := fromText_eq_ok_iff.1 loaded
  exact h.text read

/-- What is loaded from a value has been read with the levels of that value. -/
theorem of_fromValue {c : Codec α} {P : Nat → α → Prop} (h : c.Yields P) {v : Payload} {a : α}
    (loaded : c.fromValue v = .ok a) : P v.json.nesting a :=
  h.value (Nat.le_refl _) (fromValue_eq_ok_iff.1 loaded)

end Codec

/-! ## Records -/

/-- What is gathered in a slot that is free has the property. -/
def Slot.Yields (s : Slot σ) (P : Nat → σ → Prop) : Prop :=
  ∀ read ofJson, s = .free read ofJson → Decoder.Yields ⟨read, ofJson, none⟩ P

/-- What has been gathered while a record is read keeps one property, so the record has the
other. -/
structure Fields.Yields (f : Fields σ ρ) (kept : Nat → σ → Prop) (P : Nat → ρ → Prop) : Prop where
  start : ∀ levels, kept levels f.start
  slot : ∀ key s, (f.slot key s).Yields fun levels t => kept levels s → kept levels t
  finish : ∀ {levels s r}, kept levels s → f.finish s = .ok r → P levels r
  readItems : ∀ {levels index first expected cs r rest},
    f.readItems levels index first expected cs = .ok (r, rest) → P levels r
  ofItems : ∀ {levels index expected vs r left}, itemsNesting vs ≤ levels →
    f.ofItems index expected vs = .ok (r, left) → P levels r

namespace Slot

theorem Yields.map {s : Slot σ} {P : Nat → σ → Prop} {Q : Nat → τ → Prop} {f : σ → τ}
    (h : s.Yields P) (passed : ∀ levels t, P levels t → Q levels (f t)) : (s.map f).Yields Q := by
  intro read ofJson free
  cases s with
  | unknown => cases free
  | filled => cases free
  | free read' ofJson' =>
    cases free
    exact Decoder.Yields.map (h read' ofJson' rfl) passed

private theorem yields_ofField {c : Codec α} {P : Nat → α → Prop} (h : c.Yields P) (o : Option α) :
    (ofField c o).Yields fun levels t => ∀ a, t = some a → P levels a := by
  intro read ofJson free
  cases o with
  | some b => cases free
  | none =>
    cases free
    have inner : Decoder.Yields ⟨c.read, c.ofJson, none⟩ P :=
      ⟨h.text, h.value, fun found => by cases found⟩
    refine inner.map fun levels b hb a same => ?_
    cases same
    exact hb

end Slot

namespace Fields

theorem Yields.imp {f : Fields σ ρ} {kept : Nat → σ → Prop} {P Q : Nat → ρ → Prop}
    (h : f.Yields kept P) (passed : ∀ levels r, P levels r → Q levels r) : f.Yields kept Q where
  start := h.start
  slot := h.slot
  finish before whole := passed _ _ (h.finish before whole)
  readItems read := passed _ _ (h.readItems read)
  ofItems fits read := passed _ _ (h.ofItems fits read)

theorem yields_none : Fields.none.Yields (fun _ _ => True) fun _ _ => True where
  start _ := trivial
  slot key s read ofJson free := by cases free
  finish _ _ := trivial
  readItems _ := trivial
  ofItems _ _ := trivial

theorem yields_field {name : String} {c : Codec α} {others : Fields σ ρ} {P : Nat → α → Prop}
    {kept : Nat → σ → Prop} {Q : Nat → ρ → Prop} (h : c.Yields P) (g : others.Yields kept Q) :
    (Fields.field name c others).Yields
      (fun levels s => (∀ a, s.1 = some a → P levels a) ∧ kept levels s.2)
      fun levels r => P levels r.1 ∧ Q levels r.2 where
  start levels := ⟨fun _ found => (by cases found), g.start levels⟩
  slot key s := by
    simp only [field]
    split
    · apply (Slot.yields_ofField h s.1).map
      intro levels o here before
      exact ⟨here, before.2⟩
    · apply (g.slot key s.2).map
      intro levels t there before
      exact ⟨before.1, there before.2⟩
  finish {levels s r} before whole := by
    simp only [field] at whole
    split at whole
    · rename_i a found
      obtain ⟨r', others, same⟩ := map_eq_ok_iff.1 whole
      cases same
      refine ⟨?_, g.finish before.2 others⟩
      rcases Option.or_eq_some_iff.1 found with here | ⟨-, absent⟩
      · exact before.1 a here
      · exact h.absent absent
    · cases whole
  readItems {levels index first expected cs r rest} read := by
    obtain ⟨⟨more, left⟩, -, read⟩ := bind_eq_ok_iff.1 read
    cases more with
    | false => cases read
    | true =>
      obtain ⟨⟨a, afterFirst⟩, first, read⟩ := bind_eq_ok_iff.1 read
      obtain ⟨⟨r', afterOthers⟩, others, read⟩ := bind_eq_ok_iff.1 read
      cases read
      exact ⟨h.text first, g.readItems others⟩
  ofItems {levels index expected vs r left} fits read := by
    cases vs with
    | nil => cases read
    | cons v vs =>
      obtain ⟨here, there⟩ := Nat.max_le.1 fits
      obtain ⟨a, first, read⟩ := bind_eq_ok_iff.1 read
      obtain ⟨⟨r', left⟩, others, read⟩ := bind_eq_ok_iff.1 read
      cases read
      exact ⟨h.value here first, g.ofItems there others⟩

section Members

variable {f : Fields σ ρ} {kept : Nat → σ → Prop} {P : Nat → ρ → Prop} {levels : Nat}
  {s : σ} {r : ρ}

/-- The induction is on the members; what is gathered keeps its property. -/
theorem Yields.readMembers (h : f.Yields kept P) {fuel : Nat} {first : Bool} {cs rest : List Char}
    (before : kept levels s) (read : f.readMembers levels fuel first s cs = .ok (r, rest)) :
    P levels r := by
  induction fuel generalizing first s cs with
  | zero => cases read
  | succ fuel ih =>
    obtain ⟨⟨more, left⟩, -, read⟩ := bind_eq_ok_iff.1 read
    cases more with
    | true =>
      obtain ⟨⟨key, afterKey⟩, -, read⟩ := bind_eq_ok_iff.1 read
      simp only at read
      split at read
      · cases read
      · obtain ⟨afterColon, -, read⟩ := bind_eq_ok_iff.1 read
        obtain ⟨afterValue, -, read⟩ := bind_eq_ok_iff.1 read
        exact ih before read
      · rename_i slot
        obtain ⟨afterColon, -, read⟩ := bind_eq_ok_iff.1 read
        obtain ⟨⟨t, afterValue⟩, member, read⟩ := bind_eq_ok_iff.1 read
        exact ih ((h.slot _ _ _ _ slot).text member before) read
    | false =>
      simp only [Bool.false_eq_true, ↓reduceIte] at read
      split at read
      · rename_i whole
        cases read
        exact h.finish before whole
      · cases read

theorem Yields.foldlM_takeMember (h : f.Yields kept P) {ms : List (String × Json)} {t : σ}
    (fits : membersNesting ms ≤ levels) (before : kept levels s)
    (taken : ms.foldlM f.takeMember s = .ok t) :
    kept levels t := by
  induction ms generalizing s with
  | nil =>
    cases taken
    exact before
  | cons m ms ih =>
    obtain ⟨here, there⟩ := Nat.max_le.1 fits
    rw [List.foldlM_cons] at taken
    obtain ⟨next, member, taken⟩ := bind_eq_ok_iff.1 taken
    refine ih there ?_ taken
    simp only [takeMember] at member
    split at member
    · cases member
    · cases member
      exact before
    · rename_i slot
      exact (h.slot _ _ _ _ slot).value here member before

theorem Yields.ofMembers (h : f.Yields kept P) {ms : List (String × Json)}
    (fits : membersNesting ms ≤ levels) (read : f.ofMembers ms = .ok r) : P levels r := by
  obtain ⟨t, taken, read⟩ := bind_eq_ok_iff.1 read
  have gathered := h.foldlM_takeMember fits (h.start levels) taken
  split at read
  · rename_i whole
    cases read
    exact h.finish gathered whole
  · cases read

end Members

end Fields

theorem Codec.yields_record {name : String} {f : Fields σ ρ} {kept : Nat → σ → Prop}
    {P : Nat → ρ → Prop} (h : f.Yields kept P) :
    (record name f).Yields fun levels r => ∃ n, levels = n + 1 ∧ P n r where
  text {levels cs r rest} read := by
    simp only [record] at read
    split at read
    · cases read
    · cases read
    · obtain ⟨_, inner⟩ := exists_of_inList read
      exact ⟨_, rfl, h.readItems inner⟩
    · obtain ⟨_, inner⟩ := exists_of_inObject read
      exact ⟨_, rfl, h.readMembers (h.start _) inner⟩
    · cases read
  value {levels v r} fits read := by
    simp only [record] at read
    split at read
    · obtain ⟨n, rfl, fit⟩ := exists_of_list_fits fits
      obtain ⟨⟨r', left⟩, items, read⟩ := bind_eq_ok_iff.1 read
      simp only at read
      split at read
      · cases read
        exact ⟨n, rfl, h.ofItems fit items⟩
      · cases read
    · obtain ⟨n, rfl, fit⟩ := exists_of_object_fits fits
      exact ⟨n, rfl, h.ofMembers fit read⟩
    · cases read
  absent found := by cases found

/-! ## Choices and tagged texts -/

/-- What a variant stands for has the property. What it holds is read in an object, with one level
less. -/
inductive Variant.Yields (P : Nat → α → Prop) : Variant α → Prop
  | plain {name : String} {value : α} (h : ∀ levels, P levels value) : Yields P (.plain name value)
  | holding {name : String} {held : Decoder α} (h : held.Yields fun n a => P (n + 1) a) :
    Yields P (.holding name held)

namespace Codec

private theorem mem_of_variantName {variants : List (Variant α)} {s : String} {v : Variant α}
    (h : (variantName variants).parse s = .ok v) : v ∈ variants := by
  simp only [variantName, TextForm.oneOf] at h
  split at h
  · rename_i p found
    cases h
    obtain ⟨w, hw, rfl⟩ := List.mem_map.1 (List.mem_of_find?_eq_some found)
    exact hw
  · cases h

private theorem mem_of_variantKey {variants : List (Variant α)} {cs rest : List Char}
    {v : Variant α} (h : variantKey variants cs = .ok (v, rest)) : v ∈ variants := by
  simp only [variantKey] at h
  split at h
  · cases h
  · split at h
    · obtain ⟨s, named⟩ := TextForm.exists_of_read h
      exact mem_of_variantName named
    · split at h <;> cases h

private theorem yields_readHolding {variants : List (Variant α)} {P : Nat → α → Prop}
    (h : ∀ v ∈ variants, v.Yields P) {levels : Nat} {cs rest : List Char} {a : α}
    (read : readHolding variants levels cs = .ok (a, rest)) : P (levels + 1) a := by
  obtain ⟨⟨v, afterKey⟩, key, read⟩ := bind_eq_ok_iff.1 read
  obtain ⟨afterColon, -, read⟩ := bind_eq_ok_iff.1 read
  cases h v (mem_of_variantKey key) with
  | plain all =>
    obtain ⟨⟨b, left⟩, held, read⟩ := bind_eq_ok_iff.1 read
    obtain ⟨_, -, same⟩ := map_eq_ok_iff.1 held
    have closed : b = a := eq_of_closeHolding (show closeHolding (b, left) = _ from read)
    cases same
    exact closed ▸ all _
  | holding yields =>
    obtain ⟨⟨b, left⟩, held, read⟩ := bind_eq_ok_iff.1 read
    have closed : b = a := eq_of_closeHolding (show closeHolding (b, left) = _ from read)
    exact closed ▸ yields.text held

theorem yields_chooser {variants : List (Variant α)} {P : Nat → α → Prop}
    (h : ∀ v ∈ variants, v.Yields P) : (chooser variants).Yields P where
  text {levels cs a rest} read := by
    simp only [chooser] at read
    split at read
    · cases read
    · cases read
    · exact yields_readHolding h read
    · obtain ⟨⟨v, left⟩, key, read⟩ := bind_eq_ok_iff.1 read
      obtain ⟨s, named⟩ := TextForm.exists_of_read key
      cases h v (mem_of_variantName named) with
      | plain all =>
        cases read
        exact all _
      | holding => cases read
    · cases read
  value {levels v a} fits read := by
    simp only [chooser] at read
    split at read
    · obtain ⟨v, named, read⟩ := bind_eq_ok_iff.1 read
      cases h v (mem_of_variantName named) with
      | plain all =>
        cases read
        exact all _
      | holding => cases read
    · obtain ⟨n, rfl, fit⟩ := exists_of_object_fits fits
      obtain ⟨v, named, read⟩ := bind_eq_ok_iff.1 read
      cases h v (mem_of_variantName named) with
      | plain all =>
        obtain ⟨_, -, rfl⟩ := map_eq_ok_iff.1 read
        exact all _
      | holding yields =>
        obtain ⟨held, -⟩ := Nat.max_le.1 fit
        exact yields.value held read
    · cases read
    · cases read
  absent found := by cases found

/-- A tagged text is a list or an object of its own. -/
theorem yields_tagged (t : Tagging α) : (tagged t).Yields fun levels _ => 0 < levels where
  text {levels cs a rest} read := by
    simp only [tagged] at read
    split at read
    · cases read
    · cases read
    · exact Nat.succ_pos _
    · exact Nat.succ_pos _
    · cases read
  value {levels v a} fits read := by
    simp only [tagged] at read
    split at read
    · exact Nat.le_trans (Nat.le_add_left 1 _) fits
    · exact Nat.le_trans (Nat.le_add_left 1 _) fits
    · cases read
  absent found := by cases found

end Codec

end EventLineage
