import EventLineage.Json.Record
import EventLineage.Proofs.Json.Codec

/-! # Readers that check more than others

One decoder refines another if it reads the same as the other from the same text or value, to the
same end, but for what it refuses with one message: that is what it checks, and what the other does
not. A function leads from what the one reads to what the other reads. Each way of making a decoder
from others passes this on, so a check deep in a record is all that sets the record apart from one
without the check. -/
namespace EventLineage
open Json

/-- How two readings of the same end, of which the first may refuse what the second gives. -/
inductive Refined (f : α → β) (refused : ε → Prop) : Except ε α → Except ε β → Prop
  | both (a : α) : Refined f refused (.ok a) (.ok (f a))
  | refused {e : ε} (b : β) (h : refused e) : Refined f refused (.error e) (.ok b)
  | neither (e e' : ε) : Refined f refused (.error e) (.error e')

namespace Refined

variable {f : α → β} {refused : ε → Prop} {x : Except ε α} {y : Except ε β}

theorem self (refused : ε → Prop) (x : Except ε α) : Refined id refused x x := by
  cases x with
  | error e => exact .neither e e
  | ok a => exact .both a

theorem map {g : γ → δ} {p : α → γ} {q : β → δ} (h : Refined f refused x y)
    (same : ∀ a, g (p a) = q (f a)) :
    Refined g refused (x.map p) (y.map q) := by
  cases h with
  | both a =>
    show Refined g refused (.ok (p a)) (.ok (q (f a)))
    rw [← same]
    exact .both _
  | refused b h => exact .refused _ h
  | neither e e' => exact .neither e e'

theorem bind {g : γ → δ} {k : α → Except ε γ} {l : β → Except ε δ} (h : Refined f refused x y)
    (next : ∀ a, Refined g refused (k a) (l (f a))) : Refined g refused (x >>= k) (y >>= l) := by
  cases h with
  | both a => exact next a
  | refused b h =>
    -- What is refused stays refused, whatever the other reading goes on to.
    show Refined g refused (.error _) (l b)
    cases l b with
    | error e' => exact .neither _ e'
    | ok d => exact .refused d h
  | neither e e' => exact .neither e e'

/-- Two readings that begin alike. -/
theorem after {g : γ → δ} (x : Except ε α) {k : α → Except ε γ} {l : α → Except ε δ}
    (next : ∀ a, Refined g refused (k a) (l a)) : Refined g refused (x >>= k) (x >>= l) :=
  (self refused x).bind next

end Refined

/-- A reading of a text has come to a stop with this message, wherever that is placed. -/
def Json.Stop.Complains (message : String) (s : Stop) : Prop := s.cause = .said message

structure Decoder.Refines (message : String) (d : Decoder α) (e : Decoder β)
    (f : α → β) : Prop where
  text : ∀ levels cs,
    Refined (Prod.map f id) (Stop.Complains message) (d.read levels cs) (e.read levels cs)
  value : ∀ v, Refined f (· = message) (d.ofJson v) (e.ofJson v)
  absent : e.absent = d.absent.map f

variable {message : String}

theorem Decoder.Refines.fromText {c : Codec α} {c' : Codec β} {f : α → β}
    (h : c.Refines message c'.toDecoder f) (s : String) :
    Refined f (·.message = message) (c.fromText s) (c'.fromText s) := by
  have read := h.text allowedLevels s.toList
  simp only [Codec.fromText, readWhole]
  generalize c.read allowedLevels s.toList = x at read ⊢
  generalize c'.read allowedLevels s.toList = y at read ⊢
  cases read with
  | both p =>
    obtain ⟨a, rest⟩ := p
    simp only [Prod.map, id]
    cases endOfText rest with
    | error stop => exact .neither _ _
    | ok => exact .both a
  | @refused stop p told =>
    obtain ⟨b, rest⟩ := p
    simp only
    cases endOfText rest with
    | error stop => exact .neither _ _
    | ok =>
      have text : (stop.complaint s.toList).message = message := congrArg Cause.text told
      exact .refused b text
  | neither => exact .neither _ _

theorem Decoder.Refines.fromValue {c : Codec α} {c' : Codec β} {f : α → β}
    (h : c.Refines message c'.toDecoder f) (v : Payload) :
    Refined f (·.message = message) (c.fromValue v) (c'.fromValue v) := by
  have read := h.value v.json
  simp only [Codec.fromValue]
  generalize c.ofJson v.json = x at read ⊢
  generalize c'.ofJson v.json = y at read ⊢
  cases read with
  | both a => exact .both a
  | refused b told => exact .refused b told
  | neither => exact .neither _ _

/-- The slots are of one kind, and the reader of the one refines that of the other. -/
inductive Slot.Refines (message : String) (f : σ → τ) : Slot σ → Slot τ → Prop
  | unknown : Refines message f .unknown .unknown
  | filled : Refines message f .filled .filled
  | free {read read' ofJson ofJson'}
    (h : Decoder.Refines message ⟨read, ofJson, none⟩ ⟨read', ofJson', none⟩ f) :
    Refines message f (.free read ofJson) (.free read' ofJson')

/-- Two records are gathered side by side: `gathered` leads from what is gathered of the one to what
is gathered of the other, and `made` from record to record. No check is left for the end. -/
structure Fields.Refines (message : String) (f : Fields σ ρ) (g : Fields τ ρ') (gathered : σ → τ)
    (made : ρ → ρ') : Prop where
  size : f.size = g.size
  start : gathered f.start = g.start
  slot : ∀ key s, Slot.Refines message gathered (f.slot key s) (g.slot key (gathered s))
  finish : ∀ s, g.finish (gathered s) = (f.finish s).map made
  readItems : ∀ levels index first expected cs, Refined (Prod.map made id) (Stop.Complains message)
    (f.readItems levels index first expected cs) (g.readItems levels index first expected cs)
  ofItems : ∀ index expected vs, Refined (Prod.map made id) (· = message)
    (f.ofItems index expected vs) (g.ofItems index expected vs)

namespace Slot

private theorem Refines.map {f : σ → τ} {s : Slot σ} {t : Slot τ} {F : σ → σ'} {G : τ → τ'}
    {f' : σ' → τ'} (h : s.Refines message f t) (same : ∀ a, f' (F a) = G (f a)) :
    (s.map F).Refines message f' (t.map G) := by
  cases h with
  | unknown => exact .unknown
  | filled => exact .filled
  | free inner =>
    refine .free ⟨fun levels cs => ?_, fun v => (inner.value v).map same, rfl⟩
    exact (inner.text levels cs).map fun p => Prod.ext (same p.1) rfl

private theorem refines_ofField {c : Codec α} {c' : Codec β} {f : α → β}
    (h : c.Refines message c'.toDecoder f) (o : Option α) :
    (ofField c o).Refines message (Option.map f) (ofField c' (o.map f)) := by
  cases o with
  | some a => exact .filled
  | none =>
    refine .free ⟨fun levels cs => ?_, fun v => (h.value v).map fun _ => rfl, rfl⟩
    exact (h.text levels cs).map fun _ => rfl

end Slot

namespace Fields

theorem Refines.field {name : String} {c : Codec α} {c' : Codec β} {f : α → β} {others : Fields σ ρ}
    {others' : Fields τ ρ'} {gathered : σ → τ} {made : ρ → ρ'}
    (g : others.Refines message others' gathered made) (h : c.Refines message c'.toDecoder f) :
    (Fields.field name c others).Refines message (Fields.field name c' others')
      (fun s => (s.1.map f, gathered s.2)) fun r => (f r.1, made r.2) where
  size := congrArg (· + 1) g.size
  start := Prod.ext rfl g.start
  slot key s := by
    simp only [Fields.field]
    split
    · exact (Slot.refines_ofField h s.1).map fun _ => rfl
    · exact (g.slot key s.2).map fun _ => rfl
  finish s := by
    simp only [Fields.field, h.absent, g.finish]
    cases s.1 with
    | some a => cases others.finish s.2 <;> rfl
    | none =>
      cases c.absent with
      | none => rfl
      | some a => cases others.finish s.2 <;> rfl
  readItems levels index first expected cs := by
    refine .after _ ?_
    rintro ⟨more, left⟩
    cases more with
    | false => exact .neither _ _
    | true =>
      refine (h.text levels left).bind ?_
      rintro ⟨a, left⟩
      exact (g.readItems _ _ _ _ left).bind fun p => .both _
  ofItems index expected vs := by
    cases vs with
    | nil => exact .neither _ _
    | cons v vs => exact (h.value v).bind fun a => (g.ofItems _ _ vs).bind fun p => .both _

section Members

variable {f : Fields σ ρ} {g : Fields τ ρ'} {gathered : σ → τ} {made : ρ → ρ'}

/-- The induction is on the members; what is gathered of the one record leads to what is gathered of
the other. -/
private theorem Refines.readMembers (h : f.Refines message g gathered made) (levels fuel : Nat)
    (first : Bool) (s : σ) (cs : List Char) :
    Refined (Prod.map made id) (Stop.Complains message)
      (f.readMembers levels fuel first s cs) (g.readMembers levels fuel first (gathered s) cs) := by
  induction fuel generalizing first s cs with
  | zero => exact .neither _ _
  | succ fuel ih =>
    refine .after _ ?_
    rintro ⟨more, left⟩
    cases more with
    | true =>
      refine .after _ ?_
      rintro ⟨key, left⟩
      have slots := h.slot key s
      simp only
      generalize f.slot key s = slot at slots ⊢
      generalize g.slot key (gathered s) = slot' at slots ⊢
      cases slots with
      | filled => exact .neither _ _
      | unknown => exact .after _ fun left => .after _ fun left => ih false s left
      | free inner =>
        exact .after _ fun left => (inner.text levels left).bind fun p => ih false p.1 p.2
    | false =>
      simp only [Bool.false_eq_true, ↓reduceIte, h.finish]
      cases f.finish s with
      | error name => exact .neither _ _
      | ok r => exact .both (r, left)

private theorem Refines.takeMember (h : f.Refines message g gathered made)
    (s : σ) (m : String × Json) :
    Refined gathered (· = message) (f.takeMember s m) (g.takeMember (gathered s) m) := by
  have slots := h.slot m.1 s
  simp only [Fields.takeMember]
  generalize f.slot m.1 s = slot at slots ⊢
  generalize g.slot m.1 (gathered s) = slot' at slots ⊢
  cases slots with
  | filled => exact .neither _ _
  | unknown => exact .both s
  | free inner => exact inner.value m.2

private theorem Refines.ofMembers (h : f.Refines message g gathered made)
    (ms : List (String × Json)) :
    Refined made (· = message) (f.ofMembers ms) (g.ofMembers ms) := by
  have all : ∀ s, Refined gathered (· = message) (ms.foldlM f.takeMember s)
      (ms.foldlM g.takeMember (gathered s)) := by
    induction ms with
    | nil => exact fun s => .both s
    | cons m ms ih => exact fun s => (h.takeMember s m).bind ih
  rw [Fields.ofMembers, Fields.ofMembers, ← h.start]
  refine (all f.start).bind fun s => ?_
  simp only [h.finish]
  cases f.finish s with
  | error name => exact .neither _ _
  | ok r => exact .both r

end Members

end Fields

end EventLineage
