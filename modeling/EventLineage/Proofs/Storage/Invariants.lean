import EventLineage.Proofs.Json.Refines
import EventLineage.Proofs.Json.Yields
import EventLineage.Proofs.Storage.Events

/-! # What is loaded is well-formed

An origin has a first link, and a rejection has a trace that is not blank. Both are checked when
they are read, from a text or from a value, on their own or in an event, and nothing else is
checked: a list of links that can be read is an origin unless it is empty, and a command with a
trace is a rejection context unless the trace is blank. An event is read as its fields are, but for
a list of links that is empty. So wherever an origin comes from, a look into the list of its links
finds a link. -/
namespace EventLineage
open Codec Json

/-! ## Documents -/

/-- What something is loaded from. -/
inductive Document where
  | text (s : String)
  | value (v : Payload)

namespace Codec

def load (c : Codec α) : Document → Except Complaint α
  | .text s => c.fromText s
  | .value v => c.fromValue v

section Checked

variable {c : Codec α} {check : α → Except String β} {back : β → α} {d : Document}

/-- A value that is checked is loaded if and only if it can be read and passes the check. -/
theorem load_checked_iff {b : β} :
    (c.checked check back).load d = .ok b ↔ ∃ a, c.load d = .ok a ∧ check a = .ok b := by
  cases d with
  | text s =>
    simp only [load, fromText_eq_ok_iff]
    constructor
    · rintro ⟨rest, read, ended⟩
      obtain ⟨a, inner, passed⟩ := exists_of_checked_read read
      exact ⟨a, ⟨rest, inner, ended⟩, passed⟩
    · rintro ⟨a, ⟨rest, inner, ended⟩, passed⟩
      refine ⟨rest, ?_, ended⟩
      simp only [checked, inner, bind, Except.bind, passed]
  | value v =>
    simp only [load, fromValue_eq_ok_iff]
    exact bind_eq_ok_iff

end Checked

end Codec

theorem Decoder.Refines.load {c : Codec α} {c' : Codec β} {f : α → β} {message : String}
    (h : c.Refines message c'.toDecoder f) (d : Document) :
    Refined f (·.message = message) (c.load d) (c'.load d) := by
  cases d with
  | text s => exact h.fromText s
  | value v => exact h.fromValue v

/-! ## Origins -/

namespace Origin

variable {d : Document} {o : Origin}

theorem load_eq_ok_iff :
    Origin.codec.load d = .ok o ↔ o.links ≠ [] ∧ OriginLink.codec.list.load d = .ok o.links := by
  refine load_checked_iff.trans ⟨?_, fun both => ⟨o.links, both.2, rfl⟩⟩
  rintro ⟨links, read, passed⟩
  split at passed
  · rename_i o' found
    cases passed
    have same := links_of_ofLinks? found
    exact ⟨List.cons_ne_nil _ _, same ▸ read⟩
  · cases passed

/-- The origin that is left when so many links have been taken off, one after the other. -/
def behind? (o : Origin) : Nat → Option Origin
  | 0 => some o
  | n + 1 => (o.behind? n).bind grandOrigin

private theorem links_grandOrigin (o : Origin) :
    o.grandOrigin.map links = if 1 < o.links.length then some (o.links.drop 1) else none := by
  obtain ⟨nearest, earlier⟩ := o
  cases earlier with
  | nil => rfl
  | cons link rest => simp [grandOrigin, ofLinks?, links]

theorem links_behind? (o : Origin) (n : Nat) :
    (o.behind? n).map links = if n < o.links.length then some (o.links.drop n) else none := by
  induction n with
  | zero => rfl
  | succ n ih =>
    rw [behind?]
    cases found : o.behind? n with
    | none =>
      rw [found] at ih
      have short : ¬n + 1 < o.links.length := by
        intro more
        rw [if_pos (Nat.lt_of_succ_lt more)] at ih
        cases ih
      rw [if_neg short]
      rfl
    | some g =>
      have before : n < o.links.length ∧ g.links = o.links.drop n := by
        rw [found, Option.map_some] at ih
        split at ih
        · rename_i more
          exact ⟨more, Option.some.inj ih⟩
        · cases ih
      have length : g.links.length = o.links.length - n := by rw [before.2, List.length_drop]
      have iff : 1 < g.links.length ↔ n + 1 < o.links.length := by omega
      rw [Option.bind_some, g.links_grandOrigin, before.2, List.drop_drop]
      simp only [← before.2, iff]

end Origin

/-! ## Rejections -/

namespace RejectionContext

variable {d : Document} {c : RejectionContext} {command : Command} {trace : String}

/-- A command and a trace, before they are checked. -/
def parts : Codec (Command × String × Unit) :=
  record "RejectionEventContextRecord" (.field "command" Command.codec
    (.field "stacktrace" .string .none))

theorem load_eq_ok_iff : RejectionContext.codec.load d = .ok c ↔
    (∃ ch ∈ c.trace.toList, Text.isBlank ch = false) ∧
      parts.load d = .ok (c.command, c.trace, ()) := by
  refine load_checked_iff.trans ⟨?_, ?_⟩
  · rintro ⟨r, read, passed⟩
    have traced := Text.isBlankText_eq_false_iff.1 (traced_of_check passed)
    split at passed
    · cases passed
    · cases passed
      exact ⟨traced, read⟩
  · rintro ⟨traced, read⟩
    have full : Text.isBlankText c.trace = false := Text.isBlankText_eq_false_iff.2 traced
    refine ⟨_, read, ?_⟩
    simp only [full, Bool.false_eq_true, ↓reduceIte]

theorem yields_traced : RejectionContext.codec.Yields fun _ c => Text.isBlankText c.trace = false :=
  yields_checked (Decoder.yields_true _) fun _ _ _ _ passed => traced_of_check passed

end RejectionContext

/-! ## Events -/

theorem ContextDetail.yields_traced : ContextDetail.codec.Yields fun _ d => d.Traced := by
  apply yields_chooser
  intro v hv
  simp only [List.mem_cons, List.not_mem_nil, or_false] at hv
  obtain rfl | rfl | rfl := hv
  · exact .plain fun _ c found => by cases found
  · exact .holding ((Decoder.yields_true _).map fun _ _ _ c found => by cases found)
  · refine .holding (RejectionContext.yields_traced.map ?_)
    rintro _ c traced _ ⟨⟩
    exact traced

theorem EventContext.yields_traced : EventContext.codec.Yields fun _ c => c.detail.Traced := by
  refine yields_map (yields_record (Fields.yields_field (Decoder.yields_true _)
    (Fields.yields_field (Decoder.yields_true _) (Fields.yields_field ContextDetail.yields_traced
      Fields.yields_none)))) fun levels r h => ?_
  obtain ⟨n, -, -, -, traced, -⟩ := h
  exact traced

theorem Event.yields_traced : Event.codec.Yields fun _ e => e.context.detail.Traced := by
  refine yields_map (yields_record (Fields.yields_field (Decoder.yields_true _)
    (Fields.yields_field (Decoder.yields_true _) (Fields.yields_field EventContext.yields_traced
      (Fields.yields_field (Decoder.yields_true _) Fields.yields_none))))) fun levels r h => ?_
  obtain ⟨n, -, -, -, traced, -⟩ := h
  exact traced

/-- The fields of the context of an event, with a list of links that may be empty. -/
def EventContext.parts : Codec (List OriginLink × Producer × ContextDetail × Unit) :=
  record "EventContext" (.field "origin" OriginLink.codec.list (.field "producer_id" Producer.codec
    (.field "detail" ContextDetail.codec .none)))

/-- The fields of an event, with a list of links that may be empty. -/
def Event.parts :
    Codec
      (EventId × Message × (List OriginLink × Producer × ContextDetail × Unit) × Instant × Unit) :=
  record "Event" (.field "id" Identifier.codec (.field "message" Message.codec
    (.field "context" EventContext.parts (.field "timestamp" Instant.codec .none))))

namespace Withdrawal

end Withdrawal

end EventLineage
