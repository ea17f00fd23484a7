import EventLineage.Json.Record
import EventLineage.Proofs.Json.Codec

/-! # Records are read back from their members in any order

What has been gathered while a record is read depends only on which keys have been met. Each written
member finds its slot free until its own key is met, and when all keys have been met the record is
whole. So the order of the members does not matter: a text has them in the order of the fields, a
value in the order of the keys. A value may have other members besides. -/
namespace EventLineage
open Json

namespace Slot

/-- A slot that is free takes what is written as `v`, from a value or from a text. -/
def Takes (s : Slot σ) (v : Json) (b : σ) : Prop :=
  ∃ read ofJson, s = .free read ofJson ∧ ofJson v.ordered = .ok b ∧
    (v.FloatFree → Json.ReadsBack read v b)

theorem Takes.map {s : Slot σ} {v : Json} {b : σ} (h : s.Takes v b) (f : σ → τ) :
    (s.map f).Takes v (f b) := by
  obtain ⟨read, ofJson, rfl, value, text⟩ := h
  refine ⟨_, _, rfl, ?_, fun floatFree => (text floatFree).map f⟩
  rw [value]
  rfl

private theorem takes_ofField {c : Codec α} {a : α} (h : c.Keeps a) :
    (ofField c none).Takes (c.write a) (some a) := by
  refine ⟨_, _, rfl, ?_, fun floatFree => (h.text floatFree).map some⟩
  rw [h.value]
  rfl

end Slot

/-- What has been gathered of the record `r` once the keys `seen` have been met is `stage seen`; the
members are written under the keys `keys`. -/
structure Fields.Gathers (f : Fields σ ρ) (r : ρ) (keys : List String)
    (stage : List String → σ) : Prop where
  names : (f.write r).map Prod.fst = keys
  distinct : keys.Nodup
  start : stage [] = f.start
  finish : ∀ seen, (∀ m ∈ f.write r, m.1 ∈ seen) → f.finish (stage seen) = .ok r
  free : ∀ seen, ∀ m ∈ f.write r, m.1 ∉ seen →
    (f.slot m.1 (stage seen)).Takes m.2 (stage (m.1 :: seen))
  congr : ∀ seen seen', (∀ m ∈ f.write r, m.1 ∈ seen ↔ m.1 ∈ seen') → stage seen = stage seen'

namespace Fields

private theorem Gathers.key_ne {f : Fields σ ρ} {r : ρ} {keys : List String}
    {stage : List String → σ} (g : f.Gathers r keys stage) {name : String} (fresh : name ∉ keys)
    {m : String × Json} (hm : m ∈ f.write r) : m.1 ≠ name := by
  intro same
  rw [← g.names, ← same] at fresh
  exact fresh (List.mem_map_of_mem hm)

theorem gathers_none : Fields.none.Gathers () [] fun _ => () where
  names := rfl
  distinct := List.nodup_nil
  start := rfl
  finish _ _ := rfl
  free seen m hm _ := by cases hm
  congr _ _ _ := rfl

theorem gathers_field {name : String} {c : Codec α} {others : Fields σ ρ} {a : α} {r : ρ}
    {keys : List String} {stage : List String → σ} (h : c.Keeps a) (g : others.Gathers r keys stage)
    (fresh : name ∉ keys := by decide) :
    (Fields.field name c others).Gathers (a, r) (name :: keys)
      fun seen => (if name ∈ seen then some a else Option.none, stage seen) where
  names := congrArg (name :: ·) g.names
  distinct := List.nodup_cons.2 ⟨fresh, g.distinct⟩
  start := by
    have notSeen : name ∉ ([] : List String) := List.not_mem_nil
    simp only [if_neg notSeen, g.start]
    rfl
  finish seen all := by
    have here : name ∈ seen := all (name, c.write a) List.mem_cons_self
    have others := g.finish seen fun m hm => all m (List.mem_cons_of_mem _ hm)
    simp only [field, if_pos here, Option.some_or, others]
    rfl
  free seen m hm unseen := by
    rcases List.mem_cons.1 hm with rfl | hm
    · have same : stage (name :: seen) = stage seen := by
        apply g.congr
        intro m hm
        simp only [List.mem_cons, g.key_ne fresh hm, false_or]
      have takes := (Slot.takes_ofField h).map fun o => (o, stage seen)
      simpa only [field, if_neg unseen, ↓reduceIte, List.mem_cons_self, same] using takes
    · have other : m.1 ≠ name := g.key_ne fresh hm
      have keep : (name ∈ m.1 :: seen) = (name ∈ seen) := by
        simp only [List.mem_cons, other.symm, false_or]
      have takes := (g.free seen m hm unseen).map fun s =>
        (if name ∈ seen then some a else Option.none, s)
      simpa only [field, if_neg other, keep] using takes
  congr seen seen' same := by
    have here : (name ∈ seen) = (name ∈ seen') :=
      propext (same (name, c.write a) List.mem_cons_self)
    have others := g.congr seen seen' fun m hm => same m (List.mem_cons_of_mem _ hm)
    simp only [here, others]

/-! ## From a value -/

section Gathering

variable {f : Fields σ ρ} {r : ρ} {keys : List String} {stage : List String → σ}

theorem Gathers.foldlM_takeMember (g : f.Gathers r keys stage) {ms : List (String × Json)}
    (seen : List String) (written : ∀ m ∈ ms, ∃ w ∈ f.write r, orderedMember w = m)
    (distinct : (ms.map Prod.fst).Nodup) (unseen : ∀ m ∈ ms, m.1 ∉ seen) :
    ms.foldlM f.takeMember (stage seen) = .ok (stage ((ms.map Prod.fst).reverse ++ seen)) := by
  induction ms generalizing seen with
  | nil => rfl
  | cons m ms ih =>
    obtain ⟨w, hw, rfl⟩ := written m List.mem_cons_self
    obtain ⟨read, ofJson, slot, value, -⟩ :=
      g.free seen w hw (unseen (orderedMember w) List.mem_cons_self)
    simp only [List.map_cons, List.nodup_cons] at distinct
    have take : f.takeMember (stage seen) (orderedMember w) = .ok (stage (w.1 :: seen)) := by
      simp only [takeMember, orderedMember, slot, value]
    have rest := ih (w.1 :: seen) (fun m hm => written m (List.mem_cons_of_mem _ hm)) distinct.2
      fun m hm => by
        have differ : m.1 ≠ w.1 := fun same => distinct.1 (same ▸ List.mem_map_of_mem hm)
        have before := unseen m (List.mem_cons_of_mem _ hm)
        simp [differ, before]
    simp only [List.foldlM_cons, take, bind, Except.bind, rest, List.map_cons, List.reverse_cons,
      List.append_assoc, List.cons_append, List.nil_append]
    rfl

private theorem Gathers.nodup_keys (g : f.Gathers r keys stage) :
    ((f.write r).map Prod.fst).Nodup := by
  rw [g.names]
  exact g.distinct

private theorem Gathers.ofMembers_eq (g : f.Gathers r keys stage)
    {moved : List (String × Json)} (perm : moved.Perm ((f.write r).map orderedMember)) :
    f.ofMembers moved = .ok r := by
  have same : (moved.map Prod.fst).Perm ((f.write r).map Prod.fst) := by
    have mapped := perm.map Prod.fst
    rw [List.map_map] at mapped
    exact mapped
  have gathered := g.foldlM_takeMember []
    (fun m hm => List.mem_map.1 (perm.mem_iff.1 hm)) (same.nodup_iff.2 g.nodup_keys)
    fun _ _ => List.not_mem_nil
  have whole := g.finish ((moved.map Prod.fst).reverse ++ []) fun m hm => by
    rw [List.append_nil, List.mem_reverse]
    exact same.mem_iff.2 (List.mem_map_of_mem hm)
  rw [g.start] at gathered
  simp only [ofMembers, gathered, bind, Except.bind, whole]

/-! ## From a text -/

/-- One member is read, and then the others. -/
theorem Gathers.okWhen_member (g : f.Gathers r keys stage) {seen : List String} {k : String}
    {v : Json} (hm : (k, v) ∈ f.write r) (unseen : k ∉ seen) (floatFree : v.FloatFree)
    {first : Bool} {cs rest : List Char}
    (key : anotherKey first cs = .ok (true, k.toList.flatMap escaped ++
      '"' :: ':' :: (v.spelling ++ rest)))
    (delimited : Delimited rest) {levels fuel : Nat} {allowed : Prop} {end' : List Char}
    (tail : OkWhen allowed (f.readMembers levels fuel false (stage (k :: seen)) rest) (r, end')) :
    OkWhen (v.nesting ≤ levels ∧ allowed) (f.readMembers levels (fuel + 1) first (stage seen) cs)
      (r, end') := by
  obtain ⟨read, ofJson, slot, -, text⟩ := g.free seen (k, v) hm unseen
  have step : f.readMembers levels (fuel + 1) first (stage seen) cs =
      read levels (v.spelling ++ rest) >>= fun p => f.readMembers levels fuel false p.1 p.2 := by
    simp only [readMembers, key, readText_escaped, slot, colon_cons, bind, Except.bind, ↓reduceIte]
  rw [step]
  have member := (text floatFree).okWhen levels rest delimited
  exact member.bind (f := fun p => f.readMembers levels fuel false p.1 p.2) tail

/-- The members that are left once the keys `seen` have been met. -/
structure Left (f : Fields σ ρ) (r : ρ) (seen : List String)
    (ms : List (String × Json)) : Prop where
  written : ∀ m ∈ ms, m ∈ f.write r
  floatFree : ∀ m ∈ ms, m.2.FloatFree
  distinct : (ms.map Prod.fst).Nodup
  unseen : ∀ m ∈ ms, m.1 ∉ seen
  all : ∀ m ∈ f.write r, m.1 ∈ seen ∨ m ∈ ms

theorem Gathers.left (g : f.Gathers r keys stage) (floatFree : ∀ m ∈ f.write r, m.2.FloatFree) :
    f.Left r [] (f.write r) where
  written _ hm := hm
  floatFree := floatFree
  distinct := g.nodup_keys
  unseen _ _ := List.not_mem_nil
  all _ hm := .inr hm

theorem Left.tail {seen : List String} {m : String × Json} {ms : List (String × Json)}
    (h : f.Left r seen (m :: ms)) : f.Left r (m.1 :: seen) ms := by
  have distinct := h.distinct
  simp only [List.map_cons, List.nodup_cons] at distinct
  refine ⟨fun w hw => h.written w (List.mem_cons_of_mem _ hw),
    fun w hw => h.floatFree w (List.mem_cons_of_mem _ hw), distinct.2, fun w hw => ?_,
    fun w hw => ?_⟩
  · have differ : w.1 ≠ m.1 := fun same => distinct.1 (same ▸ List.mem_map_of_mem hw)
    have before := h.unseen w (List.mem_cons_of_mem _ hw)
    simp [differ, before]
  · rcases h.all w hw with before | here
    · exact .inl (List.mem_cons_of_mem _ before)
    · rcases List.mem_cons.1 here with rfl | later
      · exact .inl List.mem_cons_self
      · exact .inr later

/-- The induction is on the members that are left. -/
theorem Gathers.okWhen_readMembers (g : f.Gathers r keys stage) (levels : Nat)
    {ms : List (String × Json)} {seen : List String} (left : f.Left r seen ms) {fuel : Nat}
    (enough : ms.length < fuel) (rest : List Char) :
    OkWhen (membersNesting ms ≤ levels)
      (f.readMembers levels fuel false (stage seen) (membersSpelling ms ++ rest))
      (r, '}' :: rest) := by
  induction ms generalizing seen fuel with
  | nil =>
    obtain ⟨fuel, rfl⟩ : ∃ n, fuel = n + 1 := ⟨fuel - 1, by omega⟩
    have whole := g.finish seen fun m hm => (left.all m hm).resolve_right List.not_mem_nil
    refine .of_ok ?_ (Nat.zero_le _)
    simp only [membersSpelling, List.cons_append, List.nil_append, readMembers, anotherKey_end,
      bind, Except.bind, Bool.false_eq_true, ↓reduceIte, whole]
  | cons m ms ih =>
    obtain ⟨k, v⟩ := m
    simp only [List.length_cons] at enough
    obtain ⟨fuel, rfl⟩ : ∃ n, fuel = n + 1 := ⟨fuel - 1, by omega⟩
    have tail := ih left.tail (show ms.length < fuel by omega)
    have here := left.written (k, v) List.mem_cons_self
    have unseen := left.unseen (k, v) List.mem_cons_self
    have floatFree := left.floatFree (k, v) List.mem_cons_self
    have key := anotherKey_membersSpelling k v ms rest
    refine (g.okWhen_member here unseen floatFree key (delimited_membersSpelling ms rest)
      tail).congr ?_
    simp only [membersNesting]
    omega

private theorem Gathers.okWhen_record (g : f.Gathers r keys stage)
    (floatFree : ∀ m ∈ f.write r, m.2.FloatFree) (levels : Nat) {fuel : Nat}
    (enough : (f.write r).length < fuel) (rest : List Char) :
    OkWhen (membersNesting (f.write r) ≤ levels)
      (inObject (f.readMembers levels fuel true f.start) (objectTail (f.write r) ++ rest))
      (r, rest) := by
  obtain ⟨fuel, rfl⟩ : ∃ n, fuel = n + 1 := ⟨fuel - 1, by omega⟩
  have left := g.left floatFree
  apply OkWhen.inObject
  rw [← g.start]
  generalize f.write r = ms at left enough
  cases ms with
  | nil =>
    have whole := g.finish [] fun m hm => (left.all m hm).resolve_right List.not_mem_nil
    refine .of_ok ?_ (Nat.zero_le _)
    simp only [objectTail, List.cons_append, List.nil_append, readMembers, anotherKey_end, bind,
      Except.bind, Bool.false_eq_true, ↓reduceIte, whole]
  | cons m ms =>
    obtain ⟨k, v⟩ := m
    simp only [List.length_cons] at enough
    have tail := g.okWhen_readMembers levels left.tail (show ms.length < fuel by omega) rest
    have here := left.written (k, v) List.mem_cons_self
    have first := left.floatFree (k, v) List.mem_cons_self
    have key := anotherKey_objectTail k v ms rest
    refine (g.okWhen_member here List.not_mem_nil first key (delimited_membersSpelling ms rest)
      tail).congr ?_
    simp only [membersNesting]
    omega

end Gathering

/-! ## Among any members -/

/-- The record `r` is found among these members. -/
def Finds (f : Fields σ ρ) (ms : List (String × Json)) (r : ρ) : Prop :=
  ∃ t, ms.foldlM f.takeMember f.start = .ok t ∧ f.finish t = .ok r

theorem finds_none (ms : List (String × Json)) : Fields.none.Finds ms () := by
  refine ⟨(), ?_, rfl⟩
  induction ms with
  | nil => rfl
  | cons m ms ih => exact ih

section Finding

variable {name : String} {c : Codec α} {others : Fields σ ρ} {o : Option α} {s : σ} {v : Json}
  {a : α}

private theorem takeMember_name : (field name c others).takeMember (Option.none, s) (name, v) =
    (c.ofJson v).map fun a => (some a, s) := by
  simp only [takeMember, field, ↓reduceIte, Slot.ofField, Slot.map]
  cases c.ofJson v <;> rfl

private theorem takeMember_other {m : String × Json} (other : m.1 ≠ name) :
    (field name c others).takeMember (o, s) m = (others.takeMember s m).map fun t => (o, t) := by
  simp only [takeMember, field, if_neg other]
  cases others.slot m.1 s <;> rfl

private theorem takeMember_unknown (unknown : ∀ s, others.slot name s = .unknown) :
    others.takeMember s (name, v) = .ok s := by
  simp only [takeMember, unknown]

private theorem foldlM_takeMember_others {ms : List (String × Json)}
    (other : ∀ m ∈ ms, m.1 ≠ name) :
    ms.foldlM (field name c others).takeMember (o, s) =
      (ms.foldlM others.takeMember s).map fun t => (o, t) := by
  induction ms generalizing s with
  | nil => rfl
  | cons m ms ih =>
    rw [List.foldlM_cons, List.foldlM_cons, takeMember_other (other m List.mem_cons_self)]
    cases others.takeMember s m with
    | error fault => rfl
    | ok s' => exact ih fun m hm => other m (List.mem_cons_of_mem _ hm)

/-- The member of a field is taken where it stands, and the members of the other fields around it,
which pass over that one. -/
theorem foldlM_takeMember_field_iff {ms : List (String × Json)} {t : σ}
    (distinct : (ms.map Prod.fst).Nodup) (unknown : ∀ s, others.slot name s = .unknown)
    (member : (name, v) ∈ ms) :
    ms.foldlM (field name c others).takeMember (Option.none, s) = .ok (o, t) ↔
      (∃ a, c.ofJson v = .ok a ∧ o = some a) ∧ ms.foldlM others.takeMember s = .ok t := by
  obtain ⟨before, after, rfl⟩ := List.append_of_mem member
  have apart : ∀ m ∈ before ++ after, m.1 ≠ name := by
    have moved := (List.perm_middle.map Prod.fst).nodup_iff.1 distinct
    intro m hm same
    exact (List.nodup_cons.1 moved).1 (List.mem_map.2 ⟨m, hm, same⟩)
  -- In front of the member nothing is taken for the field; behind it the field keeps its value.
  have front : ∀ m ∈ before, m.1 ≠ name := fun m hm => apart m (List.mem_append_left _ hm)
  have back : ∀ m ∈ after, m.1 ≠ name := fun m hm => apart m (List.mem_append_right _ hm)
  rw [List.foldlM_append, List.foldlM_append, foldlM_takeMember_others front]
  cases before.foldlM others.takeMember s with
  | error fault => exact iff_of_false nofun fun h => nomatch h.2
  | ok s' =>
    show (after.foldlM _ =<< (field name c others).takeMember (Option.none, s') (name, v)) = _ ↔
      _ ∧ (after.foldlM _ =<< others.takeMember s' (name, v)) = _
    rw [takeMember_name, takeMember_unknown unknown]
    cases c.ofJson v with
    | error fault => exact iff_of_false nofun fun h => nomatch h.1
    | ok a =>
      show after.foldlM _ (some a, s') = _ ↔ _ ∧ after.foldlM _ s' = _
      rw [foldlM_takeMember_others back, map_eq_ok_iff]
      constructor
      · rintro ⟨t', taken, same⟩
        cases same
        exact ⟨⟨a, rfl, rfl⟩, taken⟩
      · rintro ⟨⟨a', same, rfl⟩, taken⟩
        cases same
        exact ⟨t, taken, rfl⟩

theorem finish_field_eq_ok_iff {t : σ} {r : ρ} : (field name c others).finish (o, t) = .ok (a, r) ↔
    o.or c.absent = some a ∧ others.finish t = .ok r := by
  simp only [field]
  cases o.or c.absent with
  | none =>
    constructor
    · intro h
      cases h
    · rintro ⟨h, -⟩
      cases h
  | some b =>
    rw [map_eq_ok_iff]
    constructor
    · rintro ⟨r', whole, same⟩
      cases same
      exact ⟨rfl, whole⟩
    · rintro ⟨same, whole⟩
      cases same
      exact ⟨r, whole, rfl⟩

/-- One more field is found if the others are, and there is a member for it or none is needed. -/
theorem finds_field_iff {r : ρ} {ms : List (String × Json)} (distinct : (ms.map Prod.fst).Nodup)
    (unknown : ∀ s, others.slot name s = .unknown) :
    (field name c others).Finds ms (a, r) ↔ others.Finds ms r ∧
      ((∃ v, (name, v) ∈ ms ∧ c.ofJson v = .ok a) ∨
        ((∀ m ∈ ms, m.1 ≠ name) ∧ c.absent = some a)) := by
  constructor
  · rintro ⟨⟨o, t⟩, all, finished⟩
    obtain ⟨present, whole⟩ := finish_field_eq_ok_iff.1 finished
    by_cases met : ∃ v, (name, v) ∈ ms
    · obtain ⟨v, member⟩ := met
      obtain ⟨⟨b, read, rfl⟩, taken⟩ := (foldlM_takeMember_field_iff distinct unknown member).1 all
      cases present
      exact ⟨⟨t, taken, whole⟩, .inl ⟨v, member, read⟩⟩
    · have apart : ∀ m ∈ ms, m.1 ≠ name := by
        rintro ⟨_, v⟩ hm rfl
        exact met ⟨v, hm⟩
      obtain ⟨t', taken, same⟩ := map_eq_ok_iff.1 ((foldlM_takeMember_others apart).symm.trans all)
      cases same
      exact ⟨⟨t, taken, whole⟩, .inr ⟨apart, present⟩⟩
  · rintro ⟨⟨t, taken, whole⟩, ⟨v, member, read⟩ | ⟨apart, absent⟩⟩
    · exact ⟨(some a, t), (foldlM_takeMember_field_iff distinct unknown member).2
        ⟨⟨a, read, rfl⟩, taken⟩,
        finish_field_eq_ok_iff.2 ⟨rfl, whole⟩⟩
    · exact ⟨(Option.none, t), (foldlM_takeMember_others apart).trans
        (map_eq_ok_iff.2 ⟨t, taken, rfl⟩),
        finish_field_eq_ok_iff.2 ⟨absent, whole⟩⟩

theorem ofMembers_eq_ok_iff {f : Fields σ ρ} {r : ρ} {ms : List (String × Json)} :
    f.ofMembers ms = .ok r ↔ f.Finds ms r := by
  refine bind_eq_ok_iff.trans (exists_congr fun t => and_congr_right fun _ => ?_)
  cases f.finish t <;> simp

end Finding

end Fields

namespace Codec

theorem keeps_record {name : String} {f : Fields σ ρ} {r : ρ} {keys : List String}
    {stage : List String → σ} (g : f.Gathers r keys stage) : (record name f).Keeps r where
  value := by
    obtain ⟨moved, ordered, perm⟩ := ordered_object_perm g.nodup_keys
    show (record name f).ofJson (Json.ordered (.object (f.write r))) = _
    rw [ordered]
    exact g.ofMembers_eq perm
  text floatFree :=
    { opens := by
        show Opens (Json.object (f.write r)).spelling
        rw [spelling_object]
        exact opens_cons _
      okWhen := by
        intro levels rest _
        show OkWhen ((Json.object (f.write r)).nesting ≤ levels)
          ((record name f).read levels ((Json.object (f.write r)).spelling ++ rest)) (r, rest)
        rw [spelling_object, List.cons_append, nesting]
        refine OkWhen.level (r := fun levels => (record name f).read levels _) ?_
          (fun levels => ?_) levels
        · exact ⟨_, rfl⟩
        · have enough := Nat.lt_succ_of_le (length_le_objectTail (f.write r) rest)
          exact g.okWhen_record (membersFloatFree_iff.1 floatFree) levels enough rest }

end Codec
end EventLineage
