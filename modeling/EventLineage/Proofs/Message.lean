import EventLineage.Proofs.Json.Shape
import EventLineage.Proofs.Storage.Parts

/-! # Messages are unpacked as their own type only

The name with which a message is tagged decides first: under another name a payload is not even
looked at. Under its own name a message is unpacked if its payload can be read, and what was packed
gives the same value again when reading undoes writing. Records of plain fields are types of this
sort. -/
namespace EventLineage

namespace MessageType

variable {α : Type}

/-- Whatever can be written is read back. -/
def RoundTrips (t : MessageType α) : Prop := ∀ a v, t.encode a = .ok v → t.decode v = .ok a

/-- The values of the type are written as records of plain fields. -/
inductive PlainRecord : MessageType α → List FieldShape → Prop
  | of {σ ρ : Type} {f : Fields σ ρ} {shape : List FieldShape} (url name : String) (there : ρ → α)
    (back : α → ρ) (plain : f.Plain shape) (inverse : ∀ a, there (back a) = a) :
    PlainRecord (.ofCodec url ((Codec.record name f).map there back)) shape

namespace PlainRecord

variable {t : MessageType α} {shape : List FieldShape}

theorem encodes (h : t.PlainRecord shape) (a : α) : ∃ v, t.encode a = .ok v := by
  cases h
  exact ⟨_, rfl⟩

theorem roundTrips (h : t.PlainRecord shape) : t.RoundTrips := by
  cases h with
  | of url name there back plain inverse =>
    intro a v written
    cases written
    exact ((Codec.keeps_plainRecord plain name (back a)).map (inverse a)).fromValue_toValue

theorem decodes_iff (h : t.PlainRecord shape) (v : Payload) :
    (∃ a, t.decode v = .ok a) ↔ FitsShape shape v.json := by
  cases h with
  | of url name there back plain inverse =>
    rw [← Codec.fitsShape_iff plain name v]
    show (∃ a, ((Codec.record name _).map there back).fromValue v = .ok a) ↔ _
    rw [Codec.fromValue_map]
    constructor
    · rintro ⟨a, read⟩
      obtain ⟨r, read, -⟩ := map_eq_ok_iff.1 read
      exact ⟨r, read⟩
    · rintro ⟨r, read⟩
      exact ⟨there r, map_eq_ok_iff.2 ⟨r, read, rfl⟩⟩

end PlainRecord
end MessageType

namespace Message

variable {α : Type} {t : MessageType α} {m : Message} {a : α}

/-! ## Packing -/

theorem pack_eq_ok_iff : pack t a = .ok m ↔ m.typeUrl = t.url ∧ t.encode a = .ok m.value := by
  obtain ⟨url, value⟩ := m
  rw [pack]
  cases t.encode a with
  | error c => exact iff_of_false nofun fun h => nomatch h.2
  | ok v =>
    simp only [Except.ok.injEq, mk.injEq]
    exact and_congr_left fun _ => eq_comm

/-! ## Unpacking -/

private theorem unpack_of_other (h : m.typeUrl ≠ t.url) :
    unpack t m = .error (.typeMismatch t.url m.typeUrl) := by
  have other : m.isOf t = false := beq_eq_false_iff_ne.2 h
  rw [unpack, other]
  rfl

private theorem unpack_of_decode (h : m.typeUrl = t.url) (read : t.decode m.value = .ok a) :
    unpack t m = .ok a := by
  have same : m.isOf t = true := beq_iff_eq.2 h
  rw [unpack, same, read]
  rfl

private theorem unpack_of_complaint {c : Json.Complaint} (h : m.typeUrl = t.url)
    (fault : t.decode m.value = .error c) :
    unpack t m = .error (.serialization (t.url ++ ": " ++ c.text)) := by
  have same : m.isOf t = true := beq_iff_eq.2 h
  rw [unpack, same, fault]
  rfl

theorem unpack_eq_mismatch_iff {expected actual : String} :
    unpack t m = .error (.typeMismatch expected actual) ↔
      m.typeUrl ≠ t.url ∧ expected = t.url ∧ actual = m.typeUrl := by
  by_cases h : m.typeUrl = t.url
  · refine iff_of_false (fun mismatch => ?_) fun other => other.1 h
    cases read : t.decode m.value with
    | ok a =>
      rw [unpack_of_decode h read] at mismatch
      cases mismatch
    | error c =>
      rw [unpack_of_complaint h read] at mismatch
      cases mismatch
  · rw [unpack_of_other h]
    constructor
    · intro same
      cases same
      exact ⟨h, rfl, rfl⟩
    · rintro ⟨-, rfl, rfl⟩
      rfl

theorem unpack_eq_serialization_iff {reason : String} :
    unpack t m = .error (.serialization reason) ↔
      m.typeUrl = t.url ∧ ∃ c, t.decode m.value = .error c ∧ reason = t.url ++ ": " ++ c.text := by
  by_cases h : m.typeUrl = t.url
  · cases read : t.decode m.value with
    | ok a =>
      rw [unpack_of_decode h read]
      exact iff_of_false nofun fun ⟨_, c, fault, _⟩ => nomatch fault
    | error c =>
      rw [unpack_of_complaint h read]
      constructor
      · intro same
        cases same
        exact ⟨h, c, rfl, rfl⟩
      · rintro ⟨-, _, same, rfl⟩
        cases same
        rfl
  · rw [unpack_of_other h]
    exact iff_of_false nofun fun same => h same.1

theorem unpack_eq_ok_iff : unpack t m = .ok a ↔ m.typeUrl = t.url ∧ t.decode m.value = .ok a := by
  constructor
  · intro unpacked
    by_cases h : m.typeUrl = t.url
    · cases read : t.decode m.value with
      | ok b =>
        rw [unpack_of_decode h read] at unpacked
        cases unpacked
        exact ⟨h, rfl⟩
      | error c =>
        rw [unpack_of_complaint h read] at unpacked
        cases unpacked
    · rw [unpack_of_other h] at unpacked
      cases unpacked
  · rintro ⟨h, read⟩
    exact unpack_of_decode h read

theorem unpack_of_pack (h : t.RoundTrips) (packed : pack t a = .ok m) : unpack t m = .ok a := by
  obtain ⟨url, written⟩ := pack_eq_ok_iff.1 packed
  exact unpack_of_decode url (h a m.value written)

/-- Unpacking undoes packing, also behind a message that has been stored and loaded in between, if
reading undoes writing. A message under another name than that of the type is refused for this, with
both names, whatever its payload is; under the name of the type it is refused if its payload cannot
be read, with a text that starts with the name; otherwise it is unpacked, and what has been unpacked
comes back when it is packed again. For records of plain fields reading undoes writing, everything
can be packed, and the payloads that can be read are those of their shape. -/
theorem unpack_outcome (t : MessageType α) :
    (t.RoundTrips → ∀ a m, pack t a = .ok m → m.typeUrl = t.url ∧ unpack t m = .ok a ∧
      ∃ loaded, codec.fromValue (codec.toValue m) = .ok loaded ∧ unpack t loaded = .ok a) ∧
    (∀ m, (∀ expected actual, unpack t m = .error (.typeMismatch expected actual) ↔
        m.typeUrl ≠ t.url ∧ expected = t.url ∧ actual = m.typeUrl) ∧
      (∀ reason, unpack t m = .error (.serialization reason) ↔
        m.typeUrl = t.url ∧ ∃ c, t.decode m.value = .error c ∧ reason = t.url ++ ": " ++ c.text) ∧
      (∀ a, unpack t m = .ok a ↔ m.typeUrl = t.url ∧ t.decode m.value = .ok a) ∧
      (t.RoundTrips → ∀ a, unpack t m = .ok a → ∀ v, t.encode a = .ok v →
        ∃ again, pack t a = .ok again ∧ unpack t again = .ok a)) ∧
    ∀ shape, t.PlainRecord shape → t.RoundTrips ∧ (∀ a, ∃ m, pack t a = .ok m) ∧
      ∀ m, (∃ reason, unpack t m = .error (.serialization reason)) ↔
        m.typeUrl = t.url ∧ ¬FitsShape shape m.value.json := by
  refine ⟨fun back a m packed => ?_, fun m => ⟨fun expected actual => unpack_eq_mismatch_iff,
    fun reason => unpack_eq_serialization_iff, fun a => unpack_eq_ok_iff,
    fun back a _ v written => ?_⟩,
    fun shape plain => ⟨plain.roundTrips, fun a => ?_, fun m => ?_⟩⟩
  · have unpacked := unpack_of_pack back packed
    exact ⟨(pack_eq_ok_iff.1 packed).1, unpacked, m, (Message.keeps m).fromValue_toValue, unpacked⟩
  · have packed : pack t a = .ok ⟨t.url, v⟩ := pack_eq_ok_iff.2 ⟨rfl, written⟩
    exact ⟨_, packed, unpack_of_pack back packed⟩
  · obtain ⟨v, written⟩ := plain.encodes a
    exact ⟨⟨t.url, v⟩, pack_eq_ok_iff.2 ⟨rfl, written⟩⟩
  · simp only [unpack_eq_serialization_iff, ← plain.decodes_iff]
    constructor
    · rintro ⟨reason, url, c, fault, -⟩
      refine ⟨url, fun ⟨a, read⟩ => ?_⟩
      rw [fault] at read
      cases read
    · rintro ⟨url, unread⟩
      cases fault : t.decode m.value with
      | ok a => exact absurd ⟨a, fault⟩ unread
      | error c => exact ⟨_, url, c, rfl, rfl⟩

end Message

/-! How much of an article is in stock, and what has become of it. -/

structure StockLevel where
  article : String
  quantity : UInt8
  change : Option Int64
  labels : List String

namespace StockLevel

def fields :=
  Fields.field "article" Codec.string (.field "quantity" Codec.unsigned8
    (.field "change" Codec.signed64.optional (.field "labels" Codec.string.list .none)))

def shape : List FieldShape :=
  [⟨"article", .text, false⟩, ⟨"quantity", .integer 0 UInt8.size, false⟩,
    ⟨"change", .integer (-9223372036854775808) 9223372036854775808, true⟩,
      ⟨"labels", .list .text, false⟩]

def type : MessageType StockLevel :=
  .ofCodec "stock.Level" ((Codec.record "StockLevel" fields).map
    (fun r => ⟨r.1, r.2.1, r.2.2.1, r.2.2.2.1⟩) fun s =>
      (s.article, s.quantity, s.change, s.labels, ()))

theorem plain_fields : fields.Plain shape :=
  .field (.required .string) (.field (.required Codec.plain_unsigned8)
    (.field (.optional Codec.plain_signed64) (.field (.required (.list .string)) .none
      (by decide)) (by decide)) (by decide)) (by decide)

theorem plainRecord_type : type.PlainRecord shape := .of _ _ _ _ plain_fields fun _ => rfl

def bolts : StockLevel := ⟨"bolt", 255, some (-3), ["metal"]⟩

/-- One more than fits. -/
def overflowing : Payload :=
  .ofJson (.list [.text "bolt", .number (.natural ⟨256, by decide⟩), .null, .list []])

theorem not_fits_overflowing : ¬FitsShape shape overflowing.json := by
  intro fits
  obtain ⟨-, rest⟩ := List.forall₂_cons.1 fits
  obtain ⟨⟨missing, -⟩ | ⟨n, i, same, whole, -, below⟩, -⟩ := List.forall₂_cons.1 rest
  · cases missing
  · cases same
    cases whole
    exact absurd below (by decide)

end StockLevel

open StockLevel in
theorem Message.unpack_outcome_stock :
    (∃ m, pack type bolts = .ok m ∧ unpack type m = .ok bolts ∧
      unpack type { m with typeUrl := "stock.Order" } =
        .error (.typeMismatch "stock.Level" "stock.Order")) ∧
    ∃ reason, unpack type ⟨"stock.Level", overflowing⟩ = .error (.serialization reason) := by
  obtain ⟨unpacked, refused, plain⟩ := unpack_outcome type
  obtain ⟨back, packs, fits⟩ := plain shape plainRecord_type
  obtain ⟨m, packed⟩ := packs bolts
  refine ⟨⟨m, packed, (unpacked back bolts m packed).2.1, ?_⟩, ?_⟩
  · have other : "stock.Order" ≠ "stock.Level" := by decide
    exact ((refused _).1 "stock.Level" "stock.Order").2 ⟨other, rfl, rfl⟩
  · exact (fits _).2 ⟨rfl, not_fits_overflowing⟩

end EventLineage
