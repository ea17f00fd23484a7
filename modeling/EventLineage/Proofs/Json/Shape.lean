import EventLineage.Proofs.Json.Record
import EventLineage.Proofs.Json.Yields
import Mathlib.Data.List.Forall2

/-! # Records of plain fields

The fields of many records are texts, integers from a range, and lists of these, and some of the
fields may be missing. Such a record keeps all of its values. What is read as one can be told from
the value alone, by the shape that the names and kinds of the fields give: each field has a fitting
member, or is missing where it may be. -/
namespace EventLineage
open Json

/-! ## Kinds of values -/

inductive Kind where
  | text
  /-- The integers from `low` on and below `high`. -/
  | integer (low high : Int)
  | list (items : Kind)
  deriving Repr, DecidableEq

def Kind.Fits : Kind → Json → Prop
  | .text, v => ∃ s, v = .text s
  | .integer low high, v => ∃ n i, v = .number n ∧ n.toInt? = some i ∧ low ≤ i ∧ i < high
  | .list items, v => ∃ vs, v = .list vs ∧ ∀ w ∈ vs, items.Fits w

namespace Codec

private theorem fit_eq_ok_iff {expected : String} {ofInt : Int → Option α} {n : Number} {a : α} :
    fit expected ofInt n = .ok a ↔ ∃ i, n.toInt? = some i ∧ ofInt i = some a := by
  constructor
  · intro h
    unfold fit at h
    split at h
    · cases h
    · rename_i i whole
      split at h
      · rename_i b inside
        cases h
        exact ⟨i, whole, inside⟩
      · cases h
  · rintro ⟨i, whole, inside⟩
    exact fit_whole whole inside

/-- The codec is for values of the kind. -/
inductive Plain : {α : Type} → Codec α → Kind → Prop
  | string : Plain string .text
  | integer {α : Type} {expected : String} {ofInt : Int → Option α} {number : α → Number}
      {low high : Int}
    (h : Ranged ofInt number low high) : Plain (integer expected ofInt number) (.integer low high)
  | list {α : Type} {c : Codec α} {k : Kind} (h : Plain c k) : Plain c.list (.list k)

theorem plain_unsigned8 : unsigned8.Plain (.integer 0 UInt8.size) := .integer ranged_unsigned8

theorem plain_signed64 : signed64.Plain (.integer (-9223372036854775808) 9223372036854775808) :=
  .integer ranged_signed64

namespace Plain

variable {α : Type} {c : Codec α} {k : Kind}

theorem keeps (h : Plain c k) : ∀ a, c.Keeps a := by
  induction h with
  | string => exact keeps_string
  | integer h => exact h.keeps
  | list h ih => exact fun as => keeps_list fun a _ => ih a

theorem present (h : Plain c k) (a : α) : Present (c.write a) := by
  cases h with
  | string => exact present_text a
  | integer h =>
    obtain ⟨i, whole, -⟩ := h.back a
    exact present_number whole
  | @list _ c k h =>
    refine ⟨nofun, ?_⟩
    show (Json.list (a.map c.write)).spelling.head? ≠ some 'n'
    rw [spelling_list]
    simp

theorem absent (h : Plain c k) : c.absent = none := by
  cases h <;> rfl

private theorem fits_iff (h : Plain c k) : ∀ v, (∃ a, c.ofJson v = .ok a) ↔ k.Fits v := by
  induction h with
  | string =>
    intro v
    constructor
    · rintro ⟨a, read⟩
      obtain ⟨s, same, -⟩ := TextForm.exists_of_ofJson read
      exact ⟨s, same⟩
    · rintro ⟨s, rfl⟩
      exact ⟨s, rfl⟩
  | @integer _ expected ofInt number low high h =>
    intro v
    constructor
    · rintro ⟨a, read⟩
      cases v with
      | number n =>
        obtain ⟨i, whole, inside⟩ := fit_eq_ok_iff.1 read
        exact ⟨n, i, rfl, whole, (h.range i).1 ⟨a, inside⟩⟩
      | null | bool | text | list | object => cases read
    · rintro ⟨n, i, rfl, whole, range⟩
      obtain ⟨a, inside⟩ := (h.range i).2 range
      exact ⟨a, fit_whole whole inside⟩
  | @list _ c k h ih =>
    intro v
    constructor
    · rintro ⟨as, read⟩
      cases v with
      | list vs => exact ⟨vs, rfl, fun w hw => (ih w).1 (exists_mapM_eq_ok_iff.1 ⟨as, read⟩ w hw)⟩
      | null | bool | text | number | object => cases read
    · rintro ⟨vs, rfl, fits⟩
      exact exists_mapM_eq_ok_iff.2 fun w hw => (ih w).2 (fits w hw)

end Plain

/-- The codec is for a field of the kind, one that may be missing if so told. -/
inductive Fills : {α : Type} → Codec α → Kind → Bool → Prop
  | required {α : Type} {c : Codec α} {k : Kind} (h : Plain c k) : Fills c k false
  | optional {α : Type} {c : Codec α} {k : Kind} (h : Plain c k) : Fills c.optional k true

end Codec

/-! ## Shapes of records -/

/-- A field by its name and kind, one that may be missing if so told. -/
structure FieldShape where
  name : String
  kind : Kind
  optional : Bool
  deriving Repr, DecidableEq

/-- Null stands for a field that may be missing. -/
def FieldShape.Fits (s : FieldShape) (v : Json) : Prop :=
  (s.optional = true ∧ v = .null) ∨ s.kind.Fits v

/-- Among the members is one that fits, or none has the name and the field may be missing. -/
def FieldShape.FitsIn (s : FieldShape) (members : List (String × Json)) : Prop :=
  (∃ v, (s.name, v) ∈ members ∧ s.Fits v) ∨ (s.optional = true ∧ ∀ m ∈ members, m.1 ≠ s.name)

/-- An object has a fitting member for each field; a list has a fitting item for each of them, in
order. -/
def FitsShape (shape : List FieldShape) : Json → Prop
  | .object members => ∀ s ∈ shape, s.FitsIn members
  | .list items => List.Forall₂ FieldShape.Fits shape items
  | _ => False

namespace Codec.Fills

variable {α : Type} {c : Codec α} {k : Kind} {name : String} {may : Bool}

theorem keeps (h : c.Fills k may) (a : α) : c.Keeps a := by
  cases h with
  | required h => exact h.keeps a
  | optional h =>
    cases a with
    | none => exact keeps_none _
    | some a => exact (h.keeps a).some (h.present a)

private theorem fits_iff (h : c.Fills k may) (v : Json) :
    (∃ a, c.ofJson v = .ok a) ↔ FieldShape.Fits ⟨name, k, may⟩ v := by
  cases h with
  | required h =>
    rw [h.fits_iff]
    exact ⟨.inr, fun fits => fits.resolve_left fun null => Bool.noConfusion null.1⟩
  | @optional _ c k h =>
    by_cases null : v = .null
    · subst null
      exact iff_of_true ⟨none, rfl⟩ (.inl ⟨rfl, rfl⟩)
    · have inner : c.optional.ofJson v = (c.ofJson v).map some := by
        cases v with
        | null => exact absurd rfl null
        | bool | number | text | list | object => rfl
      rw [inner]
      constructor
      · rintro ⟨a, read⟩
        obtain ⟨b, read, -⟩ := map_eq_ok_iff.1 read
        exact .inr ((h.fits_iff v).1 ⟨b, read⟩)
      · rintro (⟨-, null'⟩ | fits)
        · exact absurd null' null
        · obtain ⟨b, read⟩ := (h.fits_iff v).2 fits
          exact ⟨some b, map_eq_ok_iff.2 ⟨b, read, rfl⟩⟩

private theorem absent_iff (h : c.Fills k may) : (∃ a, c.absent = some a) ↔ may = true := by
  cases h with
  | required h => simp [h.absent]
  | optional h => exact iff_of_true ⟨none, rfl⟩ rfl

private theorem fitsIn_iff (h : c.Fills k may) (ms : List (String × Json)) :
    (∃ a, (∃ v, (name, v) ∈ ms ∧ c.ofJson v = .ok a) ∨
      ((∀ m ∈ ms, m.1 ≠ name) ∧ c.absent = some a)) ↔
      FieldShape.FitsIn ⟨name, k, may⟩ ms := by
  constructor
  · rintro ⟨a, ⟨v, member, read⟩ | ⟨apart, absent⟩⟩
    · exact .inl ⟨v, member, (h.fits_iff v).1 ⟨a, read⟩⟩
    · exact .inr ⟨h.absent_iff.1 ⟨a, absent⟩, apart⟩
  · rintro (⟨v, member, fits⟩ | ⟨may, apart⟩)
    · obtain ⟨a, read⟩ := (h.fits_iff v).2 fits
      exact ⟨a, .inl ⟨v, member, read⟩⟩
    · obtain ⟨a, absent⟩ := h.absent_iff.2 may
      exact ⟨a, .inr ⟨apart, absent⟩⟩

end Codec.Fills

namespace Fields

/-- The fields have the shape. -/
inductive Plain : {σ ρ : Type} → Fields σ ρ → List FieldShape → Prop
  | none : Plain Fields.none []
  | field {σ ρ α : Type} {name : String} {c : Codec α} {k : Kind} {may : Bool} {others : Fields σ ρ}
    {shape : List FieldShape} (fills : c.Fills k may) (rest : Plain others shape)
    (fresh : name ∉ shape.map FieldShape.name) :
    Plain (.field name c others) (⟨name, k, may⟩ :: shape)

namespace Plain

variable {σ ρ : Type} {f : Fields σ ρ} {shape : List FieldShape}

private theorem gathers (h : f.Plain shape) :
    ∀ r, ∃ stage, f.Gathers r (shape.map FieldShape.name) stage := by
  induction h with
  | none => exact fun _ => ⟨_, gathers_none⟩
  | field fills rest fresh ih =>
    rintro ⟨a, r⟩
    obtain ⟨stage, others⟩ := ih r
    exact ⟨_, gathers_field (fills.keeps a) others fresh⟩

private theorem slot_unknown (h : f.Plain shape) {key : String}
    (fresh : key ∉ shape.map FieldShape.name) :
    ∀ s, f.slot key s = .unknown := by
  induction h with
  | none => exact fun _ => rfl
  | @field _ _ _ name c k may others shape fills rest _ ih =>
    rw [List.map_cons, List.mem_cons, not_or] at fresh
    rintro ⟨o, s⟩
    have other : ¬key = name := fresh.1
    simp only [Fields.field, if_neg other, ih fresh.2 s, Slot.map]

private theorem finds_iff (h : f.Plain shape) {ms : List (String × Json)}
    (distinct : (ms.map Prod.fst).Nodup) :
    (∃ r, f.Finds ms r) ↔ ∀ s ∈ shape, s.FitsIn ms := by
  induction h with
  | none => exact iff_of_true ⟨(), finds_none ms⟩ (List.forall_mem_nil _)
  | @field _ _ _ name c k may others shape fills rest fresh ih =>
    have unknown := rest.slot_unknown fresh
    rw [List.forall_mem_cons, ← ih, ← fills.fitsIn_iff]
    constructor
    · rintro ⟨⟨a, r⟩, found⟩
      obtain ⟨others, here⟩ := (finds_field_iff distinct unknown).1 found
      exact ⟨⟨a, here⟩, r, others⟩
    · rintro ⟨⟨a, here⟩, r, others⟩
      exact ⟨(a, r), (finds_field_iff distinct unknown).2 ⟨others, here⟩⟩

private theorem ofItems_iff (h : f.Plain shape) (index : Nat) (expected : String)
    (vs left : List Json) :
    (∃ r, f.ofItems index expected vs = .ok (r, left)) ↔
      ∃ front, vs = front ++ left ∧ List.Forall₂ FieldShape.Fits shape front := by
  induction h generalizing index vs with
  | none =>
    constructor
    · rintro ⟨r, taken⟩
      cases taken
      exact ⟨[], rfl, .nil⟩
    · rintro ⟨front, rfl, fits⟩
      cases fits
      exact ⟨(), rfl⟩
  | @field _ _ _ name c k may others shape fills rest fresh ih =>
    cases vs with
    | nil =>
      refine iff_of_false (fun ⟨r, taken⟩ => nomatch taken) ?_
      rintro ⟨front, same, fits⟩
      rw [(List.append_eq_nil_iff.1 same.symm).1] at fits
      cases fits
    | cons v vs =>
      constructor
      · rintro ⟨⟨a, r⟩, taken⟩
        obtain ⟨a', read, taken⟩ := bind_eq_ok_iff.1 taken
        obtain ⟨⟨r', left'⟩, others, same⟩ := bind_eq_ok_iff.1 taken
        cases same
        obtain ⟨front, rfl, fits⟩ := (ih (index + 1) vs).1 ⟨r, others⟩
        exact ⟨v :: front, rfl, .cons ((fills.fits_iff v).1 ⟨a, read⟩) fits⟩
      · rintro ⟨front, same, fits⟩
        cases fits with
        | cons fit fits =>
          cases same
          obtain ⟨a, read⟩ := (fills.fits_iff v).2 fit
          obtain ⟨r, others⟩ := (ih (index + 1) _).2 ⟨_, rfl, fits⟩
          exact ⟨(a, r), bind_eq_ok_iff.2 ⟨a, read, bind_eq_ok_iff.2 ⟨(r, left), others, rfl⟩⟩⟩

end Plain
end Fields

/-! ## Records -/

namespace Codec

variable {σ ρ : Type} {f : Fields σ ρ} {shape : List FieldShape}

theorem keeps_plainRecord (h : f.Plain shape) (name : String) (r : ρ) :
    (record name f).Keeps r := by
  obtain ⟨stage, gathers⟩ := h.gathers r
  exact keeps_record gathers

/-- Exactly the values of the shape are read. -/
theorem fitsShape_iff (h : f.Plain shape) (name : String) (v : Payload) :
    (∃ r, (record name f).fromValue v = .ok r) ↔ FitsShape shape v.json := by
  simp only [fromValue_eq_ok_iff]
  have inOrder := v.inOrder
  cases hv : v.json with
  | object ms =>
    rw [hv] at inOrder
    rw [FitsShape, ← h.finds_iff inOrder.1.nodup]
    exact exists_congr fun r => Fields.ofMembers_eq_ok_iff
  | list vs =>
    rw [FitsShape]
    constructor
    · rintro ⟨r, read⟩
      obtain ⟨⟨r', left⟩, taken, ended⟩ := bind_eq_ok_iff.1 read
      obtain ⟨front, whole, fits⟩ := (h.ofItems_iff _ _ vs left).1 ⟨r', taken⟩
      cases left with
      | nil =>
        rw [whole, List.append_nil]
        exact fits
      | cons => cases ended
    · intro fits
      obtain ⟨r, taken⟩ := (h.ofItems_iff 0 (Fields.sizeText name f.size) vs []).2
        ⟨vs, (List.append_nil vs).symm, fits⟩
      exact ⟨r, bind_eq_ok_iff.2 ⟨(r, []), taken, rfl⟩⟩
  | null | bool | number | text => exact iff_of_false (fun ⟨r, read⟩ => nomatch read) id

end Codec
end EventLineage
