import EventLineage.Proofs.Json.Record
import EventLineage.Proofs.Json.Yields

/-! # Whatever is read can be written and read again

There are many spellings of one thing, and a codec writes one of them. A codec settles if whatever
it reads is read back from what it then writes, and if that nests no deeper than what was read. So a
thing that has been loaded once is loaded again from its own text, whatever text it came from. Each
way of making a codec from others preserves this. -/
namespace EventLineage
open Json

/-- What is read from a text or from a value is read back from what is written of it, which nests no
deeper than was allowed. -/
def Codec.Settles (c : Codec α) : Prop :=
  c.Yields fun levels a => c.Keeps a ∧ (c.write a).nesting ≤ levels

/-- The same for the fields of a record with these keys, if no two of them are equal. -/
def Fields.Settles (f : Fields σ ρ) (keys : List String) : Prop :=
  keys.Nodup → ∃ kept, f.Yields kept fun levels r =>
    (∃ stage, f.Gathers r keys stage) ∧ membersNesting (f.write r) ≤ levels

namespace Fields

theorem settles_none : Fields.none.Settles [] := by
  intro _
  refine ⟨_, yields_none.imp fun levels r _ => ?_⟩
  exact ⟨⟨_, gathers_none⟩, Nat.zero_le levels⟩

theorem Settles.field {name : String} {c : Codec α} {others : Fields σ ρ} {keys : List String}
    (g : others.Settles keys) (h : c.Settles) :
    (Fields.field name c others).Settles (name :: keys) := by
  intro distinct
  obtain ⟨fresh, distinct⟩ := List.nodup_cons.1 distinct
  obtain ⟨kept, g⟩ := g distinct
  refine ⟨_, (yields_field h g).imp fun levels r both => ?_⟩
  obtain ⟨⟨first, firstFits⟩, ⟨stage, others⟩, othersFit⟩ := both
  exact ⟨⟨_, gathers_field first others fresh⟩, Nat.max_le.2 ⟨firstFits, othersFit⟩⟩

end Fields

namespace Codec

/-! ## Texts, numbers and payloads -/

theorem settles_wording {w : Wording α} (h : w.codec.Yields fun _ a => w.codec.Keeps a) :
    w.codec.Settles :=
  h.imp fun levels _ kept => ⟨kept, Nat.zero_le levels⟩

theorem settles_string : string.Settles :=
  settles_wording ((Decoder.yields_true _).imp fun _ s _ => keeps_string s)

theorem settles_unsigned64 : unsigned64.Settles :=
  (Decoder.yields_true _).imp fun levels n _ => ⟨keeps_unsigned64 n, Nat.zero_le levels⟩

theorem settles_payload : payload.Settles :=
  yields_payload.imp fun _ p fits => ⟨keeps_payload p, fits⟩

/-! ## Values that stand for others -/

theorem Settles.map {c : Codec α} {there : α → β} {back : β → α} (h : c.Settles)
    (inverse : ∀ a, back (there a) = a) : (c.map there back).Settles := by
  apply yields_map h
  intro levels a both
  obtain ⟨kept, fits⟩ := both
  rw [← inverse a] at kept fits
  exact ⟨kept.map (congrArg there (inverse a)), fits⟩

theorem Settles.checked {c : Codec α} {check : α → Except String β} {back : β → α} (h : c.Settles)
    (inverse : ∀ a b, check a = .ok b → back b = a) : (c.checked check back).Settles := by
  apply yields_checked h
  intro levels a b both passed
  obtain ⟨kept, fits⟩ := both
  have same := inverse a b passed
  rw [← same] at kept fits passed
  exact ⟨kept.checked passed, fits⟩

/-- Null stands for what is missing, so nothing that is there may be written as null. -/
theorem Settles.optional {c : Codec α} (h : c.Settles) (present : ∀ a, Present (c.write a)) :
    c.optional.Settles := by
  apply (yields_optional h).imp
  intro levels o each
  cases o with
  | none => exact ⟨keeps_none c, Nat.zero_le levels⟩
  | some a =>
    obtain ⟨kept, fits⟩ := each a rfl
    exact ⟨kept.some (present a), fits⟩

/-! ## Lists, records and variants -/

theorem Settles.list {c : Codec α} (h : c.Settles) : c.list.Settles := by
  apply (yields_list h).imp
  rintro levels as ⟨n, rfl, each⟩
  refine ⟨keeps_list fun a ha => (each a ha).1, Nat.succ_le_succ (itemsNesting_le_iff.2 ?_)⟩
  intro v hv
  obtain ⟨a, ha, rfl⟩ := List.mem_map.1 hv
  exact (each a ha).2

theorem settles_record {name : String} {f : Fields σ ρ} {keys : List String} (distinct : keys.Nodup)
    (g : f.Settles keys) : (record name f).Settles := by
  obtain ⟨kept, g⟩ := g distinct
  apply (yields_record g).imp
  rintro levels r ⟨n, rfl, ⟨stage, whole⟩, fits⟩
  exact ⟨keeps_record whole, Nat.succ_le_succ fits⟩

section Choices

variable {variants : List (Variant α)} {write : α → Json} {name : String}

/-- A choice settles if each of its variants does. -/
theorem settles_choice (h : ∀ v ∈ variants, v.Yields fun levels a =>
    (choice variants write).Keeps a ∧ (write a).nesting ≤ levels) :
    (choice variants write).Settles :=
  yields_chooser h

theorem settling_plain {a : α} (written : write a = .text name)
    (named : (variantName variants).parse name = .ok (.plain name a)) :
    (Variant.plain name a).Yields fun levels a =>
      (choice variants write).Keeps a ∧ (write a).nesting ≤ levels := by
  refine .plain fun levels => ⟨keeps_plain written named, ?_⟩
  rw [written]
  exact Nat.zero_le levels

theorem Settles.holding {c : Codec β} (h : c.Settles) {variant : β → α}
    (written : ∀ b, write (variant b) = .object [(name, c.write b)])
    (named : (variantName variants).parse name = .ok (.holding name (c.toDecoder.map variant))) :
    (Variant.holding name (c.toDecoder.map variant)).Yields fun levels a =>
      (choice variants write).Keeps a ∧ (write a).nesting ≤ levels := by
  refine .holding (Decoder.Yields.map h ?_)
  rintro levels b ⟨kept, fits⟩
  refine ⟨kept.holding variant (written b) named, ?_⟩
  rw [written b]
  exact Nat.succ_le_succ (Nat.max_le.2 ⟨fits, Nat.zero_le levels⟩)

end Choices

theorem settles_tagged {t : Tagging α} (keeps : ∀ a, (tagged t).Keeps a) : (tagged t).Settles :=
  (yields_tagged t).imp fun _ a deep => ⟨keeps a, deep⟩

/-! ## Whole texts -/

/-- A whole text is loaded and stored again. -/
def restore (c : Codec α) (s : String) : Except Complaint String := (c.fromText s).map c.toText

/-- What has been loaded is loaded again from its own text. -/
theorem Settles.fromText_toText {c : Codec α} (h : c.Settles) {s : String} {a : α}
    (loaded : c.fromText s = .ok a) (floatFree : (c.write a).FloatFree) :
    c.fromText (c.toText a) = .ok a := by
  obtain ⟨kept, fits⟩ := of_fromText h loaded
  have back : c.ReadsBack a := ⟨kept, floatFree⟩
  exact back.fromText_toText fits

end Codec
end EventLineage
