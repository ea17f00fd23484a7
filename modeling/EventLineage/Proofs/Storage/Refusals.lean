import EventLineage.Proofs.Storage.Events
import EventLineage.Proofs.Storage.Loaded

/-! # Whether the refusal of a loaded command can be loaded

A command that is refused stands in the event that tells of it, four objects deeper than in a text
of its own. So a payload that nests nearly as deep as can be loaded makes an event that cannot: 125
lists and objects may stand within each other in the payload of a command that is loaded, but only
121 in that of a command whose refusal is. -/
namespace EventLineage
open Codec Json

/-- An object whose members are texts. -/
def Json.FlatTexts : Json → Prop
  | .object ms => ∀ m ∈ ms, ∃ s, m.2 = .text s
  | _ => False

theorem Json.FlatTexts.nesting {v : Json} (h : v.FlatTexts) : v.nesting = 1 := by
  cases v with
  | object ms =>
    have flat : membersNesting ms ≤ 0 := by
      apply membersNesting_le_iff.2
      intro m hm
      obtain ⟨s, text⟩ := h m hm
      rw [text]
      exact Nat.le_refl 0
    rw [Json.nesting, Nat.le_zero.1 flat]
  | null | bool | number | text | list => exact h.elim

theorem Json.FlatTexts.floatFree {v : Json} (h : v.FlatTexts) : v.FloatFree := by
  cases v with
  | object ms =>
    apply membersFloatFree_iff.2
    intro m hm
    obtain ⟨s, text⟩ := h m hm
    rw [text]
    trivial
  | null | bool | number | text | list => exact h.elim

/-! ## The command in the event -/

theorem Command.nesting_write (c : Command) :
    (Command.codec.write c).nesting = max (c.message.value.json.nesting + 2) 3 := by
  have actor := c.context.actorContext.nesting_write
  have version : (unsigned64.optional.write c.context.targetVersion).nesting = 0 := by
    cases c.context.targetVersion <;> rfl
  show max 0 (max (max 0 (max c.message.value.json.nesting 0) + 1)
    (max (max (ActorContext.codec.write c.context.actorContext).nesting
      (max (unsigned64.optional.write c.context.targetVersion).nesting 0) + 1) 0)) + 1 = _
  rw [actor, version]
  omega

section Event

variable {settings : Settings} {c : Command} {r : Rejection} {id : EventId} {time : Instant}

theorem nesting_write_rejectionEvent (flat : r.message.value.json.FlatTexts) :
    (Event.codec.write (rejectionEvent settings c r id time)).nesting =
      max (c.message.value.json.nesting + 6) 7 := by
  have command := c.nesting_write
  have detail : (ContextDetail.codec.write (.rejection (.ofRejection c r))).nesting =
      (Command.codec.write c).nesting + 2 := by
    show max (max (Command.codec.write c).nesting (max 0 0) + 1) 0 + 1 = _
    omega
  have message := flat.nesting
  rw [Event.nesting_write]
  simp only [rejectionEvent]
  rw [message, detail, command]
  omega

theorem Rejection.Made.readsBack_rejectionEvent (made : r.Made)
    (flat : r.message.value.json.FlatTexts) (command : c.Storable) (faithful : time.Faithful) :
    Event.codec.ReadsBack (rejectionEvent settings c r id time) := by
  apply Event.Storable.readsBack
  · refine ⟨flat.floatFree, faithful, fun l hl => ?_, command⟩
    rcases List.mem_singleton.1 hl with rfl
    exact command.time
  · intro context found
    cases found
    exact made.traced

/-- The event is loaded if and only if the payload of its command nests no deeper than this, and the
time is one that the text of the event shows. -/
theorem Rejection.Made.loads_iff (made : r.Made) (flat : r.message.value.json.FlatTexts)
    (command : c.Storable) :
    Event.codec.fromText (Event.codec.toText (rejectionEvent settings c r id time)) =
        .ok (rejectionEvent settings c r id time) ↔
      c.message.value.json.nesting ≤ 121 ∧ time.Faithful := by
  have fits : (Event.codec.write (rejectionEvent settings c r id time)).nesting ≤ allowedLevels ↔
      c.message.value.json.nesting ≤ 121 := by
    rw [nesting_write_rejectionEvent flat, allowedLevels]
    omega
  constructor
  · intro loaded
    have faithful : time.Faithful := of_fromText Event.yields loaded
    have back : Event.codec.ReadsBack (rejectionEvent settings c r id time) :=
      made.readsBack_rejectionEvent flat command faithful
    exact ⟨fits.1 (back.fromText_toText_iff.1 loaded), faithful⟩
  · rintro ⟨shallow, faithful⟩
    exact (made.readsBack_rejectionEvent flat command faithful).fromText_toText (fits.2 shallow)

theorem Rejection.Made.tooDeep (made : r.Made) (flat : r.message.value.json.FlatTexts)
    (command : c.Storable) (faithful : time.Faithful) (deep : 121 < c.message.value.json.nesting) :
    ∃ place, Event.codec.fromText (Event.codec.toText (rejectionEvent settings c r id time)) =
      .error ⟨"recursion limit exceeded", some place⟩ := by
  apply (made.readsBack_rejectionEvent flat command faithful).fromText_toText_tooDeep
  rw [nesting_write_rejectionEvent flat, allowedLevels]
  omega

end Event

/-- A command that is loaded from a text and refused leads to an event that is loaded from its own
text if and only if at most 121 lists and objects stand within each other in the payload of the
command, when that of the rejection is an object of texts and the clock shows a time that can be
shown. With such a time a deeper payload, of which a command that is loaded can have up to 125,
makes a text that is refused for its depth. -/
theorem Command.refusal_loads_iff {σ ν : Type} [DecidableEq ν] {f : Refuser σ ν} {g : CauseGraph ν}
    (entry : Entry) {failure : ν} {s s₁ s₂ : σ} {text : String} {c : Command} {r : Rejection}
    {id : EventId} {time : Instant} (loaded : Command.codec.fromText text = .ok c)
    (integers : c.message.value.json.FloatFree) (made : r.Made)
    (flat : r.message.value.json.FlatTexts)
    (carries : g.Carries failure f.settings.maxCauseDepth.toNat r)
    (hid : f.assembler.nextId s = (.ok id, s₁)) (htime : f.assembler.now s₁ = (.ok time, s₂)) :
    ∃ event, (f.refuse g c entry failure s).result = .ok event ∧
      (Event.codec.fromText (Event.codec.toText event) = .ok event ↔
        c.message.value.json.nesting ≤ 121 ∧ time.Faithful) ∧
      (121 < c.message.value.json.nesting → time.Faithful →
        ∃ place, Event.codec.fromText (Event.codec.toText event) =
          .error ⟨"recursion limit exceeded", some place⟩) ∧
      c.message.value.json.nesting ≤ 125 := by
  obtain ⟨shallow, shown⟩ := of_fromText Command.yields loaded
  have command : c.Storable := ⟨integers, shown⟩
  obtain ⟨e, found⟩ := (g.exists_unwrap_eq_ok_iff entry _ failure r).2 carries
  refine ⟨rejectionEvent f.settings c r id time, ?_, made.loads_iff flat command, ?_, ?_⟩
  · rw [Refuser.refuse_of_event found hid htime]
  · intro deep faithful
    exact made.tooDeep flat command faithful deep
  · rw [allowedLevels] at shallow
    omega

/-! The refused withdrawal once more, with a payload of lists within each other. -/

namespace Withdrawal

/-- So many lists within each other. -/
def lists : Nat → Json
  | 0 => .null
  | n + 1 => .list [lists n]

theorem lists_spec (n : Nat) :
    (lists n).nesting = n ∧ (lists n).FloatFree ∧ (lists n).ordered = lists n := by
  induction n with
  | zero => exact ⟨rfl, trivial, rfl⟩
  | succ n ih =>
    obtain ⟨nesting, floatFree, ordered⟩ := ih
    refine ⟨?_, ⟨floatFree, trivial⟩, ?_⟩
    · simp only [lists, Json.nesting, itemsNesting, nesting, Nat.max_zero]
    · simp only [lists, Json.ordered, orderedItems, ordered]

def deep (n : Nat) : Command :=
  .ofMessage (.ofNat 7) ⟨"bank.Withdraw", .ofJson (lists n)⟩ ⟨.ofNat 3, none, noon⟩

def plainRefusal : Rejection :=
  .ofDomain errors
    { refusal with message := ⟨"bank.Overdrawn", .ofJson (.object [("account", .text "7")])⟩ }

def plainRefusing : CauseGraph Unit := { errors with rejection := fun _ => some plainRefusal }

/-- The event that tells of the refusal of such a command at a time. -/
def refusalAt (time : Instant) (n : Nat) : Event :=
  rejectionEvent .standard (deep n) plainRefusal (.ofNat 1) time

/-- A leap second that does not stand at the end of a minute. -/
def misplaced : Instant := ⟨⟨2024, 2, 29⟩, 43230, 1500000000⟩

/-- The refuser with a clock that stands still at a time. -/
def refuserAt (time : Instant) : Refuser Unit Unit :=
  ⟨⟨.constant (.ofNat 1), .constant time⟩, .standard⟩

theorem made_plainRefusal : plainRefusal.Made := ⟨Unit, errors, _, _, rfl⟩

theorem flat_plainRefusal : plainRefusal.message.value.json.FlatTexts := by
  intro m hm
  rcases List.mem_singleton.1 hm with rfl
  exact ⟨"7", rfl⟩

theorem carries_plainRefusal (links : Nat) : plainRefusing.Carries () links plainRefusal :=
  ⟨0, Nat.zero_le _, (), rfl, rfl, fun i hi => absurd hi (Nat.not_lt_zero i)⟩

theorem nesting_deep (n : Nat) : (deep n).message.value.json.nesting = n := by
  obtain ⟨nesting, -, ordered⟩ := lists_spec n
  show (lists n).ordered.nesting = n
  rw [ordered, nesting]

theorem storable_deep (n : Nat) : (deep n).Storable where
  payload := by
    obtain ⟨-, floatFree, ordered⟩ := lists_spec n
    show (lists n).ordered.FloatFree
    rw [ordered]
    exact floatFree
  time := faithful_noon

theorem load_deep {n : Nat} (fits : n ≤ 125) :
    Command.codec.fromText (Command.codec.toText (deep n)) = .ok (deep n) := by
  apply (storable_deep n).readsBack.fromText_toText
  rw [Command.nesting_write, nesting_deep, allowedLevels]
  omega

end Withdrawal

open Withdrawal in
theorem Command.refusal_loads_withdrawal :
    Command.codec.fromText (Command.codec.toText (deep 121)) = .ok (deep 121) ∧
    ∃ event, ((refuserAt noon).refuse plainRefusing (deep 121) .erased () ()).result = .ok event ∧
      Event.codec.fromText (Event.codec.toText event) = .ok event := by
  have loaded := load_deep (show 121 ≤ 125 by decide)
  have hid : (refuserAt noon).assembler.nextId () = (.ok (.ofNat 1), ()) := rfl
  have htime : (refuserAt noon).assembler.now () = (.ok noon, ()) := rfl
  obtain ⟨event, refused, loads, -⟩ := Command.refusal_loads_iff .erased loaded
    (storable_deep 121).payload
    made_plainRefusal flat_plainRefusal (carries_plainRefusal _) hid htime
  have shallow := Nat.le_of_eq (nesting_deep 121)
  exact ⟨loaded, event, refused, loads.2 ⟨shallow, faithful_noon⟩⟩

/-- With one list more in the payload of the command, or with a time that cannot be shown, the event
is not loaded. -/
theorem Command.deep_refusal_not_loaded :
    (Command.codec.fromText (Command.codec.toText (Withdrawal.deep 122)) =
      .ok (Withdrawal.deep 122) ∧
      (Withdrawal.deep 122).message.value.json.FloatFree ∧
      Withdrawal.plainRefusal.message.value.json.FlatTexts ∧
      ((Withdrawal.refuserAt Withdrawal.noon).refuse Withdrawal.plainRefusing
        (Withdrawal.deep 122) .erased () ()).result =
          .ok (Withdrawal.refusalAt Withdrawal.noon 122) ∧
      Event.codec.fromText (Event.codec.toText (Withdrawal.refusalAt Withdrawal.noon 122)) ≠
        .ok (Withdrawal.refusalAt Withdrawal.noon 122)) ∧
    ((Withdrawal.refuserAt Withdrawal.misplaced).refuse Withdrawal.plainRefusing
      (Withdrawal.deep 1) .erased () ()).result =
        .ok (Withdrawal.refusalAt Withdrawal.misplaced 1) ∧
      Event.codec.fromText (Event.codec.toText (Withdrawal.refusalAt Withdrawal.misplaced 1)) ≠
        .ok (Withdrawal.refusalAt Withdrawal.misplaced 1) := by
  have loads (time : Instant) (n : Nat)
      (h : Event.codec.fromText (Event.codec.toText (Withdrawal.refusalAt time n)) =
        .ok (Withdrawal.refusalAt time n)) : n ≤ 121 ∧ time.Faithful := by
    have both := (Withdrawal.made_plainRefusal.loads_iff Withdrawal.flat_plainRefusal
      (Withdrawal.storable_deep n)).1 h
    rw [Withdrawal.nesting_deep] at both
    exact both
  refine ⟨⟨Withdrawal.load_deep (by decide), (Withdrawal.storable_deep 122).payload,
    Withdrawal.flat_plainRefusal, rfl, fun loaded => ?_⟩, rfl, fun loaded => ?_⟩
  · exact absurd (loads Withdrawal.noon 122 loaded).1 (by decide)
  · exact absurd ((loads Withdrawal.misplaced 1 loaded).2.leap (by decide)) (by decide)

end EventLineage
