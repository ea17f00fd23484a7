import EventLineage.Supply
import EventLineage.Proofs.Json.Nesting
import EventLineage.Proofs.Refusal
import EventLineage.Proofs.Storage.Parts

/-! # Every event that can be made is loaded as it was stored

An event is made by a refusal or by an event maker. The one thing that a reader asks for beyond the
form of an event, a trace that is not blank, is there in each of them. How deep the text of an event
nests depends on the payloads and the detail, but not on the origin. -/
namespace EventLineage
open Codec Json

/-! ## Traces -/

/-- A rejection is made of what a business rule says, and in no other way. -/
def Rejection.Made (r : Rejection) : Prop :=
  ∃ (ν : Type) (g : CauseGraph ν) (d : DomainRejection ν) (calls : String), r = .captured g d calls

private theorem Trace.isBlankText_withCalls (typeName display : String)
    (causes : List String) (calls : String) :
    Text.isBlankText (Trace.withCalls typeName display causes calls) = false := by
  refine Text.isBlankText_eq_false_iff.2 ⟨':', ?_, by decide⟩
  simp only [withCalls, String.toList_append, List.mem_append]
  exact .inl (.inl (.inl (.inr (by decide))))

theorem Rejection.Made.traced {r : Rejection} (h : r.Made) : Text.isBlankText r.trace = false := by
  obtain ⟨ν, g, d, calls, rfl⟩ := h
  exact Trace.isBlankText_withCalls _ _ _ _

/-- A rejection context is made of a rejection, or it is loaded. -/
inductive RejectionContext.Made : RejectionContext → Prop
  | ofRejection (command : Command) {r : Rejection} (made : r.Made) : Made (.ofRejection command r)
  | text {levels : Nat} {cs rest : List Char} {c : RejectionContext}
    (loaded : RejectionContext.codec.read levels cs = .ok (c, rest)) : Made c
  | value {v : Json} {c : RejectionContext} (loaded : RejectionContext.codec.ofJson v = .ok c) :
      Made c

/-- What the reader checks of a context, once its parts have been read. -/
theorem RejectionContext.traced_of_check {r : Command × String × Unit} {c : RejectionContext}
    (h : (if Text.isBlankText r.2.1 then Except.error blankTrace else .ok ⟨r.1, r.2.1⟩) = .ok c) :
    Text.isBlankText c.trace = false := by
  split at h
  · cases h
  · rename_i full
    cases h
    exact Bool.eq_false_iff.2 full

theorem RejectionContext.Made.traced {c : RejectionContext} (h : c.Made) :
    Text.isBlankText c.trace = false := by
  cases h with
  | ofRejection command made => exact made.traced
  | text loaded =>
    obtain ⟨r, -, passed⟩ := exists_of_checked_read loaded
    exact traced_of_check passed
  | value loaded =>
    obtain ⟨r, -, passed⟩ := exists_of_checked_ofJson loaded
    exact traced_of_check passed

/-! ## Events -/

/-- The ways in which an event can be made. -/
inductive Event.Built : Event → Prop
  | refused {σ ν : Type} [DecidableEq ν] (f : Refuser σ ν) (g : CauseGraph ν)
    (made : ∀ e r, g.rejection e = some r → r.Made) {command : Command} {entry : Entry}
    {failure : ν} {s : σ} {event : Event}
    (h : (f.refuse g command entry failure s).result = .ok event) : Built event
  | event {σ ν : Type} (m : EventMaker σ ν) (message : Message) (version : Option Version) {s t : σ}
    {event : Event} (h : m.event message version s = (.ok event, t)) : Built event
  | rejection {σ ν : Type} (m : EventMaker σ ν) (message : Message) {context : RejectionContext}
    (made : context.Made) {s t : σ} {event : Event}
    (h : m.rejection message context s = (.ok event, t)) :
    Built event

theorem Assembler.context_of_assemble {σ ν : Type} {a : Assembler σ ν} {origin : Origin}
    {producer : Producer} {message : Message} {detail : ContextDetail} {s t : σ} {event : Event}
    (h : a.assemble origin producer message detail s = (.ok event, t)) :
    event.context = ⟨origin, producer, detail⟩ := by
  simp only [assemble] at h
  split at h
  · cases h
  · split at h
    · cases h
    · cases h
      rfl

theorem Event.Built.traced {e : Event} (h : e.Built) : e.context.detail.Traced := by
  intro c hc
  cases h with
  | @refused σ ν _ f g made command entry failure s _ h =>
    obtain ⟨e', r, id, s₁, time, s₂, found, -, -, rfl⟩ := Refuser.exists_of_refuse_eq_ok h
    cases hc
    obtain ⟨k, -, d, first⟩ := (g.exists_unwrap_eq_ok_iff entry _ failure r).1 ⟨e', found⟩
    exact (made d r first.isRejection).traced
  | event m message version h =>
    rw [Assembler.context_of_assemble h] at hc
    cases version <;> cases hc
  | rejection m message made h =>
    rw [Assembler.context_of_assemble h] at hc
    cases hc
    exact made.traced

/-! ## How deep events nest -/

theorem ActorContext.nesting_write (a : ActorContext) :
    (ActorContext.codec.write a).nesting = 1 := by
  obtain ⟨actor, tenant, time⟩ := a
  cases tenant <;> rfl

theorem OriginLink.nesting_write (l : OriginLink) : (OriginLink.codec.write l).nesting = 3 := by
  have actor := l.actorContext.nesting_write
  show max 2 (max (ActorContext.codec.write l.actorContext).nesting 0) + 1 = 3
  rw [actor]
  rfl

private theorem itemsNesting_of_forall {vs : List Json} {n : Nat}
    (h : ∀ v ∈ vs, v.nesting = n) (ne : vs ≠ []) : itemsNesting vs = n := by
  induction vs with
  | nil => exact absurd rfl ne
  | cons v vs ih =>
    have first := h v List.mem_cons_self
    by_cases last : vs = []
    · rw [last, itemsNesting, first]
      exact Nat.max_zero n
    · rw [itemsNesting, first, ih (fun w hw => h w (List.mem_cons_of_mem _ hw)) last, Nat.max_self]

/-- An origin nests as deep as its links do, however many there are. -/
theorem Origin.nesting_write (o : Origin) : (Origin.codec.write o).nesting = 4 := by
  have links : itemsNesting (o.links.map OriginLink.codec.write) = 3 := by
    apply itemsNesting_of_forall
    · intro v hv
      obtain ⟨l, -, rfl⟩ := List.mem_map.1 hv
      exact l.nesting_write
    · exact List.cons_ne_nil _ _
  show itemsNesting (o.links.map OriginLink.codec.write) + 1 = 4
  rw [links]

theorem Event.nesting_write (e : Event) : (Event.codec.write e).nesting =
    max (e.message.value.json.nesting + 2)
      (max 6 ((ContextDetail.codec.write e.context.detail).nesting + 2)) := by
  have origin := e.context.origin.nesting_write
  show max 0 (max (max 0 (max e.message.value.json.nesting 0) + 1)
    (max (max (Origin.codec.write e.context.origin).nesting
      (max 0 (max (ContextDetail.codec.write e.context.detail).nesting 0)) + 1) (max 0 0))) + 1 = _
  rw [origin]
  omega

/-! ## Round trips -/

theorem ReadsBack.textNesting_toText {c : Codec α} {a : α} (h : c.ReadsBack a) :
    textNesting (c.toText a) = (c.write a).nesting := textNesting_render h.floatFree

/-- An event that was made is loaded as it was stored: always from a value, and from a text exactly
if fewer than 128 lists and objects stand within each other in it. A text that nests deeper is
refused for that reason. The length of the origin plays no part in this. -/
theorem Event.load_store {e : Event} (built : e.Built) (storable : e.Storable) :
    Event.codec.fromValue (Event.codec.toValue e) = .ok e ∧
    (Event.codec.fromText (Event.codec.toText e) = .ok e ↔
      textNesting (Event.codec.toText e) < 128) ∧
    (¬textNesting (Event.codec.toText e) < 128 →
      ∃ place, Event.codec.fromText (Event.codec.toText e) =
      .error ⟨"recursion limit exceeded", some place⟩) ∧
    ∀ o : Origin, (∀ l ∈ o.links, l.actorContext.timestamp.Faithful) →
      textNesting (Event.codec.toText { e with context := { e.context with origin := o } }) =
        textNesting (Event.codec.toText e) := by
  have back := storable.readsBack built.traced
  have nesting := ReadsBack.textNesting_toText back
  have deep (h : ¬textNesting (Event.codec.toText e) < 128) :
      ∃ place, Event.codec.fromText (Event.codec.toText e) =
        .error ⟨"recursion limit exceeded", some place⟩ := by
    rw [nesting] at h
    exact back.fromText_toText_tooDeep (Nat.le_of_not_lt h)
  refine ⟨back.fromValue_toValue, ⟨fun ok => ?_, fun fits => ?_⟩, deep, fun o links => ?_⟩
  · by_cases fits : textNesting (Event.codec.toText e) < 128
    · exact fits
    · obtain ⟨place, stop⟩ := deep fits
      rw [ok] at stop
      cases stop
  · rw [nesting] at fits
    exact back.fromText_toText (Nat.le_of_lt_succ fits)
  · have moved : Event.Storable { e with context := { e.context with origin := o } } :=
      ⟨storable.payload, storable.time, links, storable.detail⟩
    have back' := moved.readsBack built.traced
    rw [ReadsBack.textNesting_toText back', nesting, Event.nesting_write, Event.nesting_write]

/-! A refused withdrawal. The payloads hold numbers, texts and lists; the clock stands still. -/

namespace Withdrawal

def noon : Instant := ⟨⟨2024, 2, 29⟩, 43200, 250000000⟩

theorem faithful_noon : noon.Faithful := ⟨rfl, by decide, by decide, by decide⟩

def amount (n : Nat) (h : n < UInt64.size) : Json := .number (.natural ⟨n, h⟩)

def command : Command :=
  .ofMessage (.ofNat 7)
    ⟨"bank.Withdraw", .ofJson (.list [amount 70 (by decide), .text "to\n\"go\""])⟩
    ⟨.ofNat 3, some (.ofNat 4), noon⟩

def errors : CauseGraph Unit where
  cause _ := none
  display _ := "balance too low"
  debug _ := "TooLow"
  familiar _ := none
  rejection _ := none

def refusal : DomainRejection Unit :=
  ⟨"bank::Overdrawn", "overdrawn", some (),
    ⟨"bank.Overdrawn", .ofJson (.list [amount 5 (by decide)])⟩, none⟩

def refusing : CauseGraph Unit :=
  { errors with rejection := fun _ => some (.ofDomain errors refusal) }

def refuser : Refuser Unit Unit := ⟨⟨.constant (.ofNat 1), .constant noon⟩, .standard⟩

def event : Event := rejectionEvent .standard command (.ofDomain errors refusal) (.ofNat 1) noon

theorem made_refusing (e : Unit) (r : Rejection)
    (found : refusing.rejection e = some r) : r.Made := by
  cases found
  exact ⟨Unit, errors, refusal, Trace.unrecorded, rfl⟩

theorem refuse_refusing : (refuser.refuse refusing command .erased () ()).result = .ok event := rfl

theorem built_event : event.Built := .refused refuser refusing made_refusing refuse_refusing

theorem storable_event : event.Storable where
  payload := ⟨rfl, trivial⟩
  time := faithful_noon
  links l hl := by
    rcases List.mem_singleton.1 hl with rfl
    exact faithful_noon
  detail := ⟨⟨rfl, trivial, trivial⟩, faithful_noon⟩

theorem textNesting_event : textNesting (Event.codec.toText event) < 128 := by
  rw [ReadsBack.textNesting_toText (storable_event.readsBack built_event.traced),
    Event.nesting_write]
  decide

end Withdrawal

open Withdrawal in
theorem Event.load_store_withdrawal : event.Built ∧ event.Storable ∧
    Event.codec.fromValue (Event.codec.toValue event) = .ok event ∧
    Event.codec.fromText (Event.codec.toText event) = .ok event := by
  obtain ⟨fromValue, fromText, -⟩ := load_store built_event storable_event
  exact ⟨built_event, storable_event, fromValue, fromText.2 textNesting_event⟩

end EventLineage
