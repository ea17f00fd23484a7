import EventLineage.Event
import EventLineage.Proofs.Instant.Reading
import EventLineage.Proofs.Json.Yields

/-! # What is known of loaded commands and events

Their instants are shown faithfully when they are written again, and a payload nests less deep than
the text that it comes from, by the objects around it. -/
namespace EventLineage
open Codec Json

theorem Instant.yields : Instant.codec.Yields fun _ t => t.Faithful := by
  apply (yields_wording Instant.wording).imp
  rintro levels t ⟨s, parsed⟩
  simp only [Instant.wording] at parsed
  split at parsed
  · rename_i t' found
    cases parsed
    exact Instant.faithful_of_parse found
  · cases parsed

theorem ActorContext.yields : ActorContext.codec.Yields fun _ a => a.timestamp.Faithful := by
  refine yields_map (yields_record (Fields.yields_field (Decoder.yields_true _)
    (Fields.yields_field (Decoder.yields_true _) (Fields.yields_field Instant.yields
      Fields.yields_none)))) fun levels r h => ?_
  obtain ⟨n, -, -, -, time, -⟩ := h
  exact time

theorem Message.yields : Message.codec.Yields fun levels m => m.value.json.nesting < levels := by
  refine yields_map (yields_record (Fields.yields_field (Decoder.yields_true _)
    (Fields.yields_field yields_payload Fields.yields_none))) fun levels r h => ?_
  obtain ⟨n, rfl, -, value, -⟩ := h
  exact Nat.lt_succ_of_le value

theorem CommandContext.yields :
    CommandContext.codec.Yields fun _ c => c.actorContext.timestamp.Faithful := by
  refine yields_map (yields_record (Fields.yields_field ActorContext.yields
    (Fields.yields_field (Decoder.yields_true _) Fields.yields_none))) fun levels r h => ?_
  obtain ⟨n, -, time, -⟩ := h
  exact time

theorem Command.yields : Command.codec.Yields fun levels c =>
    c.message.value.json.nesting + 1 < levels ∧ c.context.actorContext.timestamp.Faithful := by
  refine yields_map (yields_record (Fields.yields_field (Decoder.yields_true _)
    (Fields.yields_field Message.yields (Fields.yields_field CommandContext.yields
      Fields.yields_none)))) fun levels r h => ?_
  obtain ⟨n, rfl, -, value, time, -⟩ := h
  exact ⟨Nat.succ_lt_succ value, time⟩

theorem Event.yields : Event.codec.Yields fun _ e => e.timestamp.Faithful := by
  refine yields_map (yields_record (Fields.yields_field (Decoder.yields_true _)
    (Fields.yields_field Message.yields (Fields.yields_field (Decoder.yields_true _)
      (Fields.yields_field Instant.yields Fields.yields_none))))) fun levels r h => ?_
  obtain ⟨n, -, -, -, -, time, -⟩ := h
  exact time

end EventLineage
