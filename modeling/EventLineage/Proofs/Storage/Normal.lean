import EventLineage.Proofs.Json.Settled
import EventLineage.Proofs.Storage.Events
import EventLineage.Proofs.Storage.Loaded

/-! # Loading an event brings it into its normal form

An event may be spelled with its fields in any order or as a list, with fields that nobody asked
for, with identifiers and instants in other spellings. Whatever was accepted is written in one way,
which is accepted again and means the same. -/
namespace EventLineage
open Codec Json

/-! ## Identifiers, instants and actors -/

theorem Identifier.settles {kind : IdKind} : (Identifier.codec : Codec (Identifier kind)).Settles :=
  settles_wording ((Decoder.yields_true _).imp fun _ i _ => i.keeps)

private theorem Identifier.settles_optional {kind : IdKind} :
    (Identifier.codec : Codec (Identifier kind)).optional.Settles :=
  Identifier.settles.optional fun _ => present_text _

/-- An instant that has been read may be shown otherwise, but it is shown faithfully. -/
theorem Instant.settles : Instant.codec.Settles :=
  settles_wording (Instant.yields.imp fun _ _ faithful => Instant.keeps faithful)

private theorem settles_optional_unsigned64 : unsigned64.optional.Settles :=
  settles_unsigned64.optional fun _ => present_number rfl

theorem ActorContext.settles : ActorContext.codec.Settles := by
  apply Settles.map _ fun _ => rfl
  exact settles_record (by decide)
    (((Fields.settles_none.field Instant.settles).field Identifier.settles_optional).field
      Identifier.settles)

/-! ## Messages and commands -/

theorem Message.settles : Message.codec.Settles := by
  apply Settles.map _ fun _ => rfl
  exact settles_record (by decide)
    ((Fields.settles_none.field settles_payload).field settles_string)

theorem CommandContext.settles : CommandContext.codec.Settles := by
  apply Settles.map _ fun _ => rfl
  exact settles_record (by decide)
    ((Fields.settles_none.field settles_optional_unsigned64).field ActorContext.settles)

theorem Command.settles : Command.codec.Settles := by
  apply Settles.map _ fun _ => rfl
  exact settles_record (by decide)
    (((Fields.settles_none.field CommandContext.settles).field Message.settles).field
      Identifier.settles)

/-! ## Origins -/

theorem MessageRef.settles : MessageRef.codec.Settles := by
  apply Settles.map _ fun _ => rfl
  exact settles_record (by decide)
    ((Fields.settles_none.field settles_string).field (settles_tagged MessageId.keeps))

theorem OriginLink.settles : OriginLink.codec.Settles := by
  apply Settles.map _ fun _ => rfl
  exact settles_record (by decide)
    ((Fields.settles_none.field ActorContext.settles).field MessageRef.settles)

theorem Origin.settles : Origin.codec.Settles := by
  apply OriginLink.settles.list.checked
  intro links o passed
  split at passed
  · rename_i o' found
    cases passed
    exact links_of_ofLinks? found
  · cases passed

/-! ## Events -/

theorem Producer.settles : Producer.codec.Settles :=
  settles_string.map fun _ => rfl

theorem Version.settles : Version.codec.Settles := by
  apply Settles.map _ fun _ => rfl
  exact settles_record (by decide)
    ((Fields.settles_none.field Instant.settles).field settles_unsigned64)

theorem RejectionContext.settles : RejectionContext.codec.Settles := by
  apply Settles.checked
  · exact settles_record (by decide)
      ((Fields.settles_none.field settles_string).field Command.settles)
  · intro r c passed
    split at passed
    · cases passed
    · cases passed
      rfl

theorem ContextDetail.settles : ContextDetail.codec.Settles := by
  apply settles_choice
  intro v hv
  simp only [List.mem_cons, List.not_mem_nil, or_false] at hv
  obtain rfl | rfl | rfl := hv
  · exact settling_plain rfl rfl
  · exact Version.settles.holding (fun _ => rfl) rfl
  · exact RejectionContext.settles.holding (fun _ => rfl) rfl

theorem EventContext.settles : EventContext.codec.Settles := by
  apply Settles.map _ fun _ => rfl
  exact settles_record (by decide)
    (((Fields.settles_none.field ContextDetail.settles).field Producer.settles).field
      Origin.settles)

theorem Event.settles : Event.codec.Settles := by
  apply Settles.map _ fun _ => rfl
  exact settles_record (by decide)
    ((((Fields.settles_none.field Instant.settles).field EventContext.settles).field
      Message.settles).field
      Identifier.settles)

/-- Whatever text an event has been loaded from, it is loaded again from its own text, however deep
that nests, when its payloads hold no floating-point number. So a second loading and storing changes
nothing: the event stays the same, and so does the text. -/
theorem Event.load_normalises {s : String} {e : Event} (loaded : Event.codec.fromText s = .ok e)
    (integers : e.FloatFree) :
    Event.codec.fromText (Event.codec.toText e) = .ok e ∧
      (Event.codec.fromText s >>= fun e => Event.codec.fromText (Event.codec.toText e)) =
        Event.codec.fromText s ∧
      Event.codec.restore s = .ok (Event.codec.toText e) ∧
      Event.codec.restore (Event.codec.toText e) = .ok (Event.codec.toText e) := by
  have again := Event.settles.fromText_toText loaded integers.write
  refine ⟨again, ?_, ?_, ?_⟩
  · simp only [loaded, bind, Except.bind, again]
  · simp only [restore, loaded, Except.map]
  · simp only [restore, again, Except.map]

/-- A gap in front of an event is passed over. -/
theorem Event.fromText_gap {s : String} {e : Event} (h : Event.codec.fromText s = .ok e) :
    Event.codec.fromText (" " ++ s) = .ok e := by
  have chars : (" " ++ s).toList = ' ' :: s.toList := String.toList_append
  obtain ⟨rest, read, ended⟩ := fromText_eq_ok_iff.1 h
  refine fromText_eq_ok_iff.2 ⟨rest, ?_, ended⟩
  rw [chars]
  exact read

open Withdrawal in
/-- A text of the refused withdrawal that is not its own. -/
theorem Event.load_normalises_withdrawal :
    Event.codec.fromText (" " ++ Event.codec.toText event) = .ok event ∧ event.FloatFree ∧
      Event.codec.restore (" " ++ Event.codec.toText event) = .ok (Event.codec.toText event) := by
  have back : Event.codec.ReadsBack event := storable_event.readsBack built_event.traced
  have shallow : (Event.codec.write event).nesting ≤ allowedLevels := by
    rw [Event.nesting_write]
    decide
  have loaded := fromText_gap (back.fromText_toText shallow)
  obtain ⟨-, -, restored, -⟩ := load_normalises loaded storable_event.floatFree
  exact ⟨loaded, storable_event.floatFree, restored⟩

end EventLineage
