import EventLineage.Proofs.Json.Choice
import EventLineage.Proofs.Json.Extent
import EventLineage.Proofs.Json.Record

/-! # What is kept of something that is stored and loaded

A number with a fraction may be loaded as another one, and an instant may be shown as another one. A
codec retains a property of something if whatever it reads of what it has written has the property,
from a value or from a text. Each way of making a codec from others passes this on, so that one part
of a record is kept whatever becomes of the others. -/
namespace EventLineage
open Json

/-- Whatever is read of what the codec writes for `a` has the property. -/
structure Codec.Retains (c : Codec α) (a : α) (P : α → Prop) : Prop where
  value : ∀ {b}, c.ofJson (c.write a).ordered = .ok b → P b
  text : ReadsPast c.read (c.write a) P

namespace Codec

section Whole

variable {c : Codec α} {a b : α} {P : α → Prop}

theorem Retains.of_fromText (h : c.Retains a P)
    (loaded : c.fromText (c.toText a) = .ok b) : P b := by
  obtain ⟨left, read, -⟩ := fromText_eq_ok_iff.1 loaded
  rw [toText, render, String.toList_ofList, ← List.append_nil (c.write a).spelling] at read
  exact (h.text.past delimited_nil read).1

theorem Retains.of_fromValue (h : c.Retains a P)
    (loaded : c.fromValue (c.toValue a) = .ok b) : P b :=
  h.value (fromValue_eq_ok_iff.1 loaded)

theorem Retains.imp {Q : α → Prop} (h : c.Retains a P) (passed : ∀ b, P b → Q b) : c.Retains a Q :=
  ⟨fun read => passed _ (h.value read), h.text.imp passed⟩

theorem Retains.anything (h : c.Retains a P) : c.Retains a fun _ => True :=
  h.imp fun _ _ => trivial

/-- What is read back is kept as a whole. -/
theorem ReadsBack.retains (h : c.ReadsBack a) : c.Retains a (· = a) where
  value read := by
    rw [h.value] at read
    cases read
    rfl
  text := (h.text h.floatFree).readsPast

end Whole

/-! ## Texts and payloads -/

theorem retains_wording (w : Wording α) (a : α) :
    w.codec.Retains a fun b => w.parse (w.print a) = .ok b where
  value read := read
  text :=
    { opens := opens_cons _
      past := by
        intro levels rest b left _ read
        have read : w.read (quote (w.print a) ++ rest) = .ok (b, left) := read
        rw [quote_append, TextForm.read, skipGaps_cons (by decide)] at read
        simp only [readText_escaped, bind, Except.bind] at read
        split at read
        · rename_i parsed
          cases read
          exact ⟨parsed, .inl rfl⟩
        · cases read }

theorem retains_string (s : String) : string.Retains s (· = s) :=
  ReadsBack.retains ⟨keeps_string s, trivial⟩

theorem retains_payload (p : Payload) : payload.Retains p fun _ => True where
  value _ := trivial
  text := (readsPast_value p.json).map fun _ _ => trivial

/-! ## Values that stand for others -/

theorem Retains.map {c : Codec α} {there : α → β} {back : β → α} {b : β} {P : α → Prop}
    {Q : β → Prop} (h : c.Retains (back b) P) (passed : ∀ a, P a → Q (there a)) :
    (c.map there back).Retains b Q where
  value read := by
    obtain ⟨a, inner, rfl⟩ := map_eq_ok_iff.1 read
    exact passed a (h.value inner)
  text := h.text.map passed

theorem Retains.checked {c : Codec α} {check : α → Except String β} {back : β → α} {b : β}
    {P : α → Prop} {Q : β → Prop} (h : c.Retains (back b) P)
    (passed : ∀ a b', P a → check a = .ok b' → Q b') :
    (c.checked check back).Retains b Q where
  value read := by
    obtain ⟨a, inner, found⟩ := exists_of_checked_ofJson read
    exact passed a _ (h.value inner) found
  text :=
    { opens := h.text.opens
      past := by
        intro levels rest b' left delimited read
        obtain ⟨a, inner, found⟩ := exists_of_checked_read read
        exact (h.text.past delimited inner).imp_left fun kept => passed a b' kept found }

/-! ## Lists -/

theorem retains_list {c : Codec α} {as : List α} {P : α → Prop} (each : ∀ a ∈ as, c.Retains a P) :
    c.list.Retains as fun _ => True where
  value _ := trivial
  text := by
    apply (readsLists_list c).readsPast
    intro v hv
    obtain ⟨a, ha, rfl⟩ := List.mem_map.1 hv
    exact (each a ha).text

end Codec

/-! ## Records -/

/-- What is read in the slot, where it is free, has the property. -/
def Slot.Retains (s : Slot σ) (v : Json) (P : σ → Prop) : Prop :=
  s = .filled ∨
    ∃ read ofJson, s = .free read ofJson ∧ (∀ {t}, ofJson v.ordered = .ok t → P t) ∧
      ReadsPast read v P

/-- What is gathered from the members of the record `r` keeps one property, so what is read has the
other. -/
structure Fields.Guards (f : Fields σ ρ) (r : ρ) (kept : σ → Prop) (P : ρ → Prop) : Prop where
  start : kept f.start
  slot : ∀ m ∈ f.write r, ∀ s, kept s → (f.slot m.1 s).Retains m.2 kept
  finish : ∀ {s r'}, kept s → f.finish s = .ok r' → P r'

/-- Whatever is read of the members of the record `r` has the property. The record has these keys,
and this is so if no two of them are equal. -/
structure Fields.Retains (f : Fields σ ρ) (r : ρ) (keys : List String) (P : ρ → Prop) : Prop where
  names : (f.write r).map Prod.fst = keys
  guards : keys.Nodup → ∃ kept, f.Guards r kept P

namespace Slot

theorem Retains.map {s : Slot σ} {v : Json} {P : σ → Prop} {Q : τ → Prop} {f : σ → τ}
    (h : s.Retains v P) (passed : ∀ t, P t → Q (f t)) : (s.map f).Retains v Q := by
  rcases h with rfl | ⟨read, ofJson, rfl, value, text⟩
  · exact .inl rfl
  · refine .inr ⟨_, _, rfl, fun {t} got => ?_, text.map passed⟩
    obtain ⟨t', inner, rfl⟩ := map_eq_ok_iff.1 got
    exact passed t' (value inner)

private theorem retains_ofField {c : Codec α} {a : α} {P : α → Prop} (h : c.Retains a P)
    (o : Option α) :
    (ofField c o).Retains (c.write a) fun t => ∀ b, t = some b → P b := by
  cases o with
  | some _ => exact .inl rfl
  | none =>
    refine .inr ⟨_, _, rfl, fun {t} got => ?_, h.text.map ?_⟩
    · obtain ⟨b, inner, rfl⟩ := map_eq_ok_iff.1 got
      rintro _ ⟨⟩
      exact h.value inner
    · rintro b kept _ ⟨⟩
      exact kept

end Slot

namespace Fields

theorem Retains.imp {f : Fields σ ρ} {r : ρ} {keys : List String} {P Q : ρ → Prop}
    (h : f.Retains r keys P) (passed : ∀ r', P r' → Q r') : f.Retains r keys Q where
  names := h.names
  guards distinct := by
    obtain ⟨kept, g⟩ := h.guards distinct
    exact ⟨kept, g.start, g.slot, fun before whole => passed _ (g.finish before whole)⟩

private theorem guards_none : Fields.none.Guards () (fun _ => True) fun _ => True where
  start := trivial
  slot m hm := by cases hm
  finish _ _ := trivial

theorem retains_none : Fields.none.Retains () [] fun _ => True where
  names := rfl
  guards _ := ⟨_, guards_none⟩

section Field

variable {name : String} {c : Codec α} {others : Fields σ ρ} {a : α} {r : ρ} {keys : List String}
  {kept : σ → Prop} {P : α → Prop} {Q : ρ → Prop}

theorem Guards.field (g : others.Guards r kept Q) (names : (others.write r).map Prod.fst = keys)
    (h : c.Retains a P) (absent : ∀ b, c.absent = some b → P b) (fresh : name ∉ keys) :
    (Fields.field name c others).Guards (a, r) (fun s => (∀ b, s.1 = some b → P b) ∧ kept s.2)
      fun r' => P r'.1 ∧ Q r'.2 where
  start := ⟨fun b found => (by cases found), g.start⟩
  slot m hm s before := by
    rcases List.mem_cons.1 hm with rfl | hm
    · simp only [Fields.field, ↓reduceIte]
      exact (Slot.retains_ofField h s.1).map fun t here => ⟨here, before.2⟩
    · have other : m.1 ≠ name := by
        intro same
        rw [← names, ← same] at fresh
        exact fresh (List.mem_map_of_mem hm)
      simp only [Fields.field, if_neg other]
      exact (g.slot m hm s.2 before.2).map fun t there => ⟨before.1, there⟩
  finish {s r'} before whole := by
    obtain ⟨found, others⟩ := finish_field_eq_ok_iff.1 whole
    refine ⟨?_, g.finish before.2 others⟩
    rcases Option.or_eq_some_iff.1 found with here | ⟨-, missing⟩
    · exact before.1 _ here
    · exact absent _ missing

theorem Retains.field (g : others.Retains r keys Q) (h : c.Retains a P)
    (absent : ∀ b, c.absent = some b → P b) :
    (Fields.field name c others).Retains (a, r) (name :: keys) fun r' => P r'.1 ∧ Q r'.2 where
  names := congrArg (name :: ·) g.names
  guards distinct := by
    obtain ⟨fresh, distinct⟩ := List.nodup_cons.1 distinct
    obtain ⟨kept, guards⟩ := g.guards distinct
    exact ⟨_, guards.field g.names h absent fresh⟩

/-- A field that must not be absent. -/
theorem Retains.required (g : others.Retains r keys Q) (h : c.Retains a P)
    (required : c.absent = Option.none) :
    (Fields.field name c others).Retains (a, r) (name :: keys) fun r' => P r'.1 ∧ Q r'.2 := by
  apply g.field h
  rw [required]
  rintro b ⟨⟩

/-- A field of which nothing is asked. -/
theorem Retains.beside (g : others.Retains r keys Q) (h : c.Retains a fun _ => True) :
    (Fields.field name c others).Retains (a, r) (name :: keys) fun r' => Q r'.2 :=
  (g.field h fun _ _ => trivial).imp fun _ both => both.2

end Field

section Members

variable {f : Fields σ ρ} {r r' : ρ} {kept : σ → Prop} {P : ρ → Prop} {s : σ}

theorem Guards.foldlM_takeMember (h : f.Guards r kept P) {ms : List (String × Json)} {t : σ}
    (written : ∀ m ∈ ms, ∃ w ∈ f.write r, orderedMember w = m) (before : kept s)
    (taken : ms.foldlM f.takeMember s = .ok t) : kept t := by
  induction ms generalizing s with
  | nil =>
    cases taken
    exact before
  | cons m ms ih =>
    rw [List.foldlM_cons] at taken
    obtain ⟨next, member, taken⟩ := bind_eq_ok_iff.1 taken
    refine ih (fun w hw => written w (List.mem_cons_of_mem _ hw)) ?_ taken
    obtain ⟨w, hw, rfl⟩ := written m List.mem_cons_self
    rcases h.slot w hw s before with filled | ⟨read, ofJson, free, value, -⟩
    · simp only [takeMember, orderedMember, filled] at member
      cases member
    · simp only [takeMember, orderedMember, free] at member
      exact value member

private theorem Guards.of_ofMembers (h : f.Guards r kept P) {moved : List (String × Json)}
    (perm : moved.Perm ((f.write r).map orderedMember))
    (read : f.ofMembers moved = .ok r') : P r' := by
  obtain ⟨t, taken, whole⟩ := ofMembers_eq_ok_iff.1 read
  have known : ∀ m ∈ moved, ∃ w ∈ f.write r, orderedMember w = m :=
    fun m hm => List.mem_map.1 (perm.mem_iff.1 hm)
  exact h.finish (h.foldlM_takeMember known h.start taken) whole

variable {levels fuel : Nat} {ms : List (String × Json)} {rest left : List Char}

private theorem eq_of_readMembers {after cs : List Char} (behind : Behind rest after)
    (read : f.readMembers levels fuel false s after = .ok (r', cs)) : after = rest := by
  cases fuel with
  | zero => cases read
  | succ fuel =>
    obtain ⟨⟨more, _⟩, start, -⟩ := bind_eq_ok_iff.1 read
    exact eq_of_anotherKey behind start

private theorem Guards.of_member (h : f.Guards r kept P) {k : String} {v : Json}
    (hm : (k, v) ∈ f.write r) (before : kept s) {first : Bool} {cs : List Char}
    (start : anotherKey first cs =
      .ok (true, k.toList.flatMap escaped ++
        '"' :: ':' :: (v.spelling ++ (membersSpelling ms ++ rest))))
    (tail : ∀ {fuel s}, kept s →
      f.readMembers levels fuel false s (membersSpelling ms ++ rest) = .ok (r', left) →
      P r' ∧ left = '}' :: rest)
    (read : f.readMembers levels fuel first s cs = .ok (r', left)) : P r' ∧ left = '}' :: rest := by
  cases fuel with
  | zero => cases read
  | succ fuel =>
    rcases h.slot _ hm s before with filled | ⟨reader, ofJson, free, -, text⟩
    · simp only [readMembers, start, readText_escaped, filled, bind, Except.bind,
        ↓reduceIte] at read
      cases read
    · simp only [readMembers, start, readText_escaped, free, colon_cons, bind, Except.bind,
        ↓reduceIte] at read
      split at read
      · cases read
      · rename_i found inner
        obtain ⟨next, behind⟩ := text.past (delimited_membersSpelling ms rest) inner
        rw [eq_of_readMembers behind read] at read
        exact tail next read

private theorem Guards.of_end (h : f.Guards r kept P) (before : kept s) {first : Bool}
    (read : f.readMembers levels fuel first s ('}' :: rest) = .ok (r', left)) :
    P r' ∧ left = '}' :: rest := by
  cases fuel with
  | zero => cases read
  | succ fuel =>
    simp only [readMembers, anotherKey_end, bind, Except.bind, Bool.false_eq_true,
      ↓reduceIte] at read
    split at read
    · rename_i whole
      cases read
      exact ⟨h.finish before whole, rfl⟩
    · cases read

/-- The induction is on the members that are left. -/
theorem Guards.of_readMembers (h : f.Guards r kept P) (written : ∀ m ∈ ms, m ∈ f.write r)
    (before : kept s)
    (read : f.readMembers levels fuel false s (membersSpelling ms ++ rest) = .ok (r', left)) :
    P r' ∧ left = '}' :: rest := by
  induction ms generalizing fuel s with
  | nil => exact h.of_end before read
  | cons m ms ih =>
    obtain ⟨k, v⟩ := m
    refine h.of_member (written _ List.mem_cons_self) before
      (anotherKey_membersSpelling k v ms rest)
      (fun next read => ?_) read
    exact ih (fun w hw => written w (List.mem_cons_of_mem _ hw)) next read

private theorem Guards.of_inObject (h : f.Guards r kept P)
    (read : inObject (f.readMembers levels fuel true f.start) (objectTail (f.write r) ++ rest) =
      .ok (r', left)) : P r' ∧ left = rest := by
  obtain ⟨mid, inner, ended⟩ := exists_end_of_inObject read
  have brace : P r' ∧ mid = '}' :: rest := by
    cases shape : f.write r with
    | nil =>
      rw [shape] at inner
      exact h.of_end h.start inner
    | cons m ms =>
      obtain ⟨k, v⟩ := m
      have written : ∀ m ∈ (k, v) :: ms, m ∈ f.write r := fun m hm => shape ▸ hm
      rw [shape] at inner
      refine h.of_member (written _ List.mem_cons_self) h.start (anotherKey_objectTail k v ms rest)
        (fun next read => ?_) inner
      exact h.of_readMembers (fun w hw => written w (List.mem_cons_of_mem _ hw)) next read
  obtain ⟨whole, rfl⟩ := brace
  cases ended
  exact ⟨whole, rfl⟩

end Members

end Fields

namespace Codec

theorem retains_record {name : String} {f : Fields σ ρ} {r : ρ} {keys : List String} {P : ρ → Prop}
    (distinct : keys.Nodup) (h : f.Retains r keys P) : (record name f).Retains r P where
  value {r'} read := by
    have distinctNames : ((f.write r).map Prod.fst).Nodup := by
      rw [h.names]
      exact distinct
    obtain ⟨kept, guards⟩ := h.guards distinct
    obtain ⟨moved, ordered, perm⟩ := ordered_object_perm distinctNames
    have read : (record name f).ofJson (Json.ordered (.object (f.write r))) = .ok r' := read
    rw [ordered] at read
    exact guards.of_ofMembers perm read
  text :=
    { opens := by
        show Opens (Json.object (f.write r)).spelling
        rw [spelling_object]
        exact opens_cons _
      past := by
        intro levels rest r' left _ read
        obtain ⟨kept, guards⟩ := h.guards distinct
        have read :
            (record name f).read levels ((Json.object (f.write r)).spelling ++ rest) =
              .ok (r', left) :=
          read
        rw [spelling_object, List.cons_append] at read
        cases levels with
        | zero => cases read
        | succ levels => exact (guards.of_inObject read).imp_right .inl }

/-- A type that is read and written as a record of which nothing is asked. -/
theorem retains_fields {name : String} {f : Fields σ ρ} {there : ρ → α} {back : α → ρ} {a : α}
    {keys : List String} (distinct : keys.Nodup) (h : f.Retains (back a) keys fun _ => True) :
    ((record name f).map there back).Retains a fun _ => True :=
  (retains_record distinct h).map fun _ _ => trivial

/-! ## Choices -/

section Choices

variable {variants : List (Variant α)} {write : α → Json} {name : String}

private theorem eq_of_closeHolding_behind {p : α × List Char} {a : α} {rest left : List Char}
    (behind : Behind ('}' :: rest) p.2) (h : closeHolding p = .ok (a, left)) : left = rest := by
  have brace : p.2 = '}' :: rest := by
    apply behind.eq_of_apart
    intro c cs same numeral
    rw [closeHolding, same, skipGaps_cons (not_isGap_of_inNumeral numeral)] at h
    simp [ne_of_inNumeral numeral (show inNumeral '}' = false by decide)] at h
  rw [closeHolding, brace] at h
  cases h
  rfl

/-- The variant holds what a codec of its own reads and writes. -/
theorem Retains.holding {c : Codec β} {b : β} {P : β → Prop} (h : c.Retains b P) (variant : β → α)
    (written : write (variant b) = .object [(name, c.write b)])
    (named : (variantName variants).parse name = .ok (.holding name (c.toDecoder.map variant))) :
    (choice variants write).Retains (variant b) fun _ => True where
  value _ := trivial
  text :=
    { opens := by
        show Opens (write (variant b)).spelling
        rw [written]
        exact opens_cons _
      past := by
        intro levels rest a left _ read
        refine ⟨trivial, .inl ?_⟩
        have read :
            (chooser variants).read levels ((write (variant b)).spelling ++ rest) =
              .ok (a, left) := read
        rw [written, spelling_holding] at read
        cases levels with
        | zero => cases read
        | succ levels =>
          have read : readHolding variants levels _ = .ok (a, left) := read
          rw [readHolding_quote named] at read
          obtain ⟨⟨_, _⟩, held, closed⟩ := bind_eq_ok_iff.1 read
          obtain ⟨⟨b', mid⟩, inner, same⟩ := map_eq_ok_iff.1 held
          cases same
          obtain ⟨-, behind⟩ := h.text.past (delimited_cons (.inr (.inr rfl)) rest) inner
          exact eq_of_closeHolding_behind behind closed }

end Choices

end Codec

end EventLineage
