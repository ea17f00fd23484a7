import EventLineage.Refusal
import EventLineage.Proofs.Instant
import EventLineage.Proofs.Json.Choice
import EventLineage.Proofs.Json.Record
import EventLineage.Proofs.Uuid

/-! # The parts of a stored event are loaded as they were

From the identifiers and instants up to the whole event, each part is read back from what is written
of it: from a value whatever its payloads hold, from a text if they hold no floating-point
number. -/
namespace EventLineage
open Codec Json

/-! ## Identifiers, instants and actors -/

theorem Identifier.parse_text {kind : IdKind} (i : Identifier kind) :
    Identifier.wording.parse i.text = .ok i := by
  simp only [wording, Uuid.wording, text, Uuid.parse_text, Except.map]

theorem Identifier.keeps {kind : IdKind} (i : Identifier kind) : Identifier.codec.Keeps i := by
  have printed : Identifier.wording.print i = i.text := rfl
  exact keeps_wording (by rw [printed, i.parse_text])

theorem Identifier.keeps_optional {kind : IdKind} (i : Option (Identifier kind)) :
    Identifier.codec.optional.Keeps i := by
  cases i with
  | none => exact keeps_none _
  | some i => exact i.keeps.some (present_text _)

theorem Instant.keeps {t : Instant} (h : t.Faithful) : Instant.codec.Keeps t := by
  have parsed : Instant.wording.parse (Instant.wording.print t) = .ok t := by
    simp only [wording, h.parse_text]
  exact keeps_wording parsed

theorem keeps_optional_unsigned64 (n : Option UInt64) : unsigned64.optional.Keeps n := by
  cases n with
  | none => exact keeps_none _
  | some n => exact (keeps_unsigned64 n).some (present_number rfl)

theorem ActorContext.keeps {a : ActorContext} (h : a.timestamp.Faithful) :
    ActorContext.codec.Keeps a := by
  have tenant := Identifier.keeps_optional a.tenant
  have time := Instant.keeps h
  refine Codec.Keeps.map ?_ rfl
  exact keeps_record (Fields.gathers_field a.actor.keeps (Fields.gathers_field tenant
    (Fields.gathers_field time Fields.gathers_none)))

/-! ## Messages and commands -/

theorem Message.keeps (m : Message) : Message.codec.Keeps m := by
  have value := keeps_payload m.value
  refine Codec.Keeps.map ?_ rfl
  exact keeps_record (Fields.gathers_field (keeps_string m.typeUrl)
    (Fields.gathers_field value Fields.gathers_none))

theorem CommandContext.keeps {c : CommandContext} (h : c.actorContext.timestamp.Faithful) :
    CommandContext.codec.Keeps c := by
  have actor := ActorContext.keeps h
  have version := keeps_optional_unsigned64 c.targetVersion
  refine Codec.Keeps.map ?_ rfl
  exact keeps_record (Fields.gathers_field actor
    (Fields.gathers_field version Fields.gathers_none))

theorem Command.keeps {c : Command} (time : c.context.actorContext.timestamp.Faithful) :
    Command.codec.Keeps c := by
  have message := c.message.keeps
  have context := CommandContext.keeps time
  refine Codec.Keeps.map ?_ rfl
  exact keeps_record (Fields.gathers_field c.id.keeps (Fields.gathers_field message
    (Fields.gathers_field context Fields.gathers_none)))

/-- The command can be written and read back: its time is shown faithfully, and its payload holds no
floating-point number. -/
structure Command.Storable (c : Command) : Prop where
  payload : c.message.value.json.FloatFree
  time : c.context.actorContext.timestamp.Faithful

/-! ## Origins -/

private theorem MessageId.spelled_command (i : CommandId) :
    MessageId.tagging.Spelled (.command i) (Identifier.wording.toTextForm.map .command) where
  differ := by decide
  found := rfl
  parsed := by
    simp only [tagging]
    exact TextForm.parse_map i.parse_text _

private theorem MessageId.spelled_event (i : EventId) :
    MessageId.tagging.Spelled (.event i) (Identifier.wording.toTextForm.map .event) where
  differ := by decide
  found := rfl
  parsed := by
    simp only [tagging]
    exact TextForm.parse_map i.parse_text _

theorem MessageId.keeps (i : MessageId) : MessageId.codec.Keeps i := by
  cases i with
  | command i => exact keeps_tagged (spelled_command i)
  | event i => exact keeps_tagged (spelled_event i)

theorem MessageRef.keeps (m : MessageRef) : MessageRef.codec.Keeps m := by
  refine Codec.Keeps.map ?_ rfl
  exact keeps_record (Fields.gathers_field m.id.keeps
    (Fields.gathers_field (keeps_string m.typeUrl) Fields.gathers_none))

theorem OriginLink.keeps {l : OriginLink} (h : l.actorContext.timestamp.Faithful) :
    OriginLink.codec.Keeps l := by
  have actor := ActorContext.keeps h
  refine Codec.Keeps.map ?_ rfl
  exact keeps_record (Fields.gathers_field l.message.keeps
    (Fields.gathers_field actor Fields.gathers_none))

theorem Origin.keeps {o : Origin} (h : ∀ l ∈ o.links, l.actorContext.timestamp.Faithful) :
    Origin.codec.Keeps o := by
  have links := keeps_list fun l hl => OriginLink.keeps (h l hl)
  exact links.checked rfl

/-! ## Events -/

theorem Producer.keeps (p : Producer) : Producer.codec.Keeps p :=
  (keeps_string p.name).map rfl

theorem Version.keeps {v : Version} (h : v.timestamp.Faithful) : Version.codec.Keeps v := by
  have time := Instant.keeps h
  refine Codec.Keeps.map ?_ rfl
  exact keeps_record (Fields.gathers_field (keeps_unsigned64 v.number)
    (Fields.gathers_field time Fields.gathers_none))

theorem RejectionContext.keeps {c : RejectionContext}
    (time : c.command.context.actorContext.timestamp.Faithful)
    (traced : Text.isBlankText c.trace = false) : RejectionContext.codec.Keeps c := by
  refine Keeps.checked ?_ ?_
  · exact keeps_record (Fields.gathers_field (Command.keeps time)
      (Fields.gathers_field (keeps_string c.trace) Fields.gathers_none))
  · simp only [traced, Bool.false_eq_true, ↓reduceIte]

/-- The instant in the detail of an event, if there is one, is shown faithfully. -/
def ContextDetail.Dated : ContextDetail → Prop
  | .plain => True
  | .versioned v => v.timestamp.Faithful
  | .rejection c => c.command.context.actorContext.timestamp.Faithful

/-- What the detail of an event holds can be written and read back. -/
def ContextDetail.Storable : ContextDetail → Prop
  | .plain => True
  | .versioned v => v.timestamp.Faithful
  | .rejection c => c.command.Storable

/-- A rejection in the detail of an event has a trace that is not blank. -/
def ContextDetail.Traced (d : ContextDetail) : Prop :=
  ∀ c, d.rejection? = some c → Text.isBlankText c.trace = false

theorem ContextDetail.keeps {d : ContextDetail} (h : d.Dated) (traced : d.Traced) :
    ContextDetail.codec.Keeps d := by
  cases d with
  | plain => exact keeps_plain rfl rfl
  | versioned v => exact (Version.keeps h).holding ContextDetail.versioned rfl rfl
  | rejection c =>
    exact (RejectionContext.keeps h (traced c rfl)).holding ContextDetail.rejection rfl rfl

theorem EventContext.keeps {c : EventContext}
    (links : ∀ l ∈ c.origin.links, l.actorContext.timestamp.Faithful) (h : c.detail.Dated)
    (traced : c.detail.Traced) : EventContext.codec.Keeps c := by
  have origin := Origin.keeps links
  have detail := ContextDetail.keeps h traced
  refine Codec.Keeps.map ?_ rfl
  exact keeps_record (Fields.gathers_field origin (Fields.gathers_field c.producer.keeps
    (Fields.gathers_field detail Fields.gathers_none)))

/-- All instants of the event are shown faithfully. -/
structure Event.Dated (e : Event) : Prop where
  time : e.timestamp.Faithful
  links : ∀ l ∈ e.origin.links, l.actorContext.timestamp.Faithful
  detail : e.context.detail.Dated

theorem Event.Dated.keeps {e : Event} (h : e.Dated) (traced : e.context.detail.Traced) :
    Event.codec.Keeps e := by
  have message := e.message.keeps
  have context := EventContext.keeps h.links h.detail traced
  have time := Instant.keeps h.time
  refine Codec.Keeps.map ?_ rfl
  exact keeps_record (Fields.gathers_field e.id.keeps (Fields.gathers_field message
    (Fields.gathers_field context (Fields.gathers_field time Fields.gathers_none))))

/-- All instants of the event are shown faithfully, and no payload holds a floating-point number. -/
structure Event.Storable (e : Event) : Prop where
  payload : e.message.value.json.FloatFree
  time : e.timestamp.Faithful
  links : ∀ l ∈ e.origin.links, l.actorContext.timestamp.Faithful
  detail : e.context.detail.Storable

theorem Event.Storable.dated {e : Event} (h : e.Storable) : e.Dated := by
  refine ⟨h.time, h.links, ?_⟩
  have detail := h.detail
  cases hd : e.context.detail with
  | plain => trivial
  | versioned v =>
    rw [hd] at detail
    exact detail
  | rejection c =>
    rw [hd] at detail
    exact detail.time

/-! Floating-point numbers stand in payloads only. -/

theorem ActorContext.floatFree_write (a : ActorContext) :
    (ActorContext.codec.write a).FloatFree := by
  obtain ⟨actor, tenant, time⟩ := a
  cases tenant <;> exact ⟨trivial, trivial, trivial, trivial⟩

theorem Command.floatFree_write {c : Command} (payload : c.message.value.json.FloatFree) :
    (Command.codec.write c).FloatFree := by
  have actor := c.context.actorContext.floatFree_write
  have version : (unsigned64.optional.write c.context.targetVersion).FloatFree := by
    cases c.context.targetVersion <;> trivial
  exact ⟨trivial, ⟨trivial, payload, trivial⟩, ⟨actor, version, trivial⟩, trivial⟩

theorem Command.Storable.readsBack {c : Command} (h : c.Storable) : Command.codec.ReadsBack c :=
  ⟨Command.keeps h.time, Command.floatFree_write h.payload⟩

theorem Origin.floatFree_write (o : Origin) : (Origin.codec.write o).FloatFree := by
  apply itemsFloatFree_iff.2
  intro v hv
  obtain ⟨l, -, rfl⟩ := List.mem_map.1 hv
  exact ⟨⟨⟨trivial, trivial, trivial⟩, trivial, trivial⟩, l.actorContext.floatFree_write, trivial⟩

/-- The payload of a rejected command in the detail of an event holds no floating-point number. -/
def ContextDetail.FloatFree (d : ContextDetail) : Prop :=
  ∀ c, d.rejection? = some c → c.command.message.value.json.FloatFree

theorem ContextDetail.FloatFree.write {d : ContextDetail} (h : d.FloatFree) :
    (ContextDetail.codec.write d).FloatFree := by
  cases d with
  | plain => trivial
  | versioned v => exact ⟨⟨rfl, trivial, trivial⟩, trivial⟩
  | rejection c =>
    have command := Command.floatFree_write (h c rfl)
    exact ⟨⟨command, trivial, trivial⟩, trivial⟩

/-- No payload of the event holds a floating-point number: neither that of its message nor that of a
command whose rejection it tells of. -/
structure Event.FloatFree (e : Event) : Prop where
  message : e.message.value.json.FloatFree
  command : e.context.detail.FloatFree

theorem Event.FloatFree.write {e : Event} (h : e.FloatFree) : (Event.codec.write e).FloatFree := by
  have origin := e.context.origin.floatFree_write
  have detail := h.command.write
  exact ⟨trivial, ⟨trivial, h.message, trivial⟩, ⟨origin, trivial, detail, trivial⟩,
    trivial, trivial⟩

theorem Event.Storable.floatFree {e : Event} (h : e.Storable) : e.FloatFree := by
  refine ⟨h.payload, fun c found => ?_⟩
  have detail := h.detail
  cases hd : e.context.detail with
  | plain | versioned =>
    rw [hd] at found
    cases found
  | rejection c' =>
    rw [hd] at found detail
    cases found
    exact detail.payload

theorem Event.Storable.readsBack {e : Event} (h : e.Storable) (traced : e.context.detail.Traced) :
    Event.codec.ReadsBack e :=
  ⟨h.dated.keeps traced, h.floatFree.write⟩

end EventLineage
