import EventLineage.Json.Choice
import EventLineage.Proofs.Json.Codec

/-! # Variants are read back from their names

A choice is read back when its name leads to its variant. A tagged text is read back in either order
of its two members: a text has the tag first, a value has the members in the order of their keys. -/
namespace EventLineage.Codec
open Json

/-! ## Choices -/

section Choices

variable {variants : List (Variant α)} {write : α → Json} {name : String} {a : α}

theorem keeps_plain (written : write a = .text name)
    (named : (variantName variants).parse name = .ok (.plain name a)) :
    (choice variants write).Keeps a where
  value := by
    show (chooser variants).ofJson (write a).ordered = _
    simp only [written, ordered, chooser, named, bind, Except.bind]
  text _ :=
    { opens := by
        show Opens (write a).spelling
        rw [written]
        exact opens_cons _
      okWhen := by
        intro levels rest _
        refine .of_ok ?_ ?_
        · have read := TextForm.read_quote named rest
          show (chooser variants).read levels ((write a).spelling ++ rest) = _
          rw [quote_append] at read
          rw [written, spelling, quote_append, chooser]
          simp only [skipGaps_cons (show isGap '"' = false by decide), read, bind, Except.bind]
        · show (write a).nesting ≤ levels
          rw [written]
          exact Nat.zero_le levels }

/-- What follows a member that stands alone in an object. -/
def closeHolding (p : α × List Char) : Except Stop (α × List Char) :=
  match skipGaps p.2 with
  | [] => .error (.here .endInObject [])
  | c :: rest => if c = '}' then .ok (p.1, rest) else .error (.here .valueExpected (c :: rest))

private theorem closeHolding_brace (rest : List Char) :
    closeHolding (a, '}' :: rest) = .ok (a, rest) := rfl

theorem eq_of_closeHolding {p : α × List Char} {rest : List Char}
    (h : closeHolding p = .ok (a, rest)) :
    p.1 = a := by
  simp only [closeHolding] at h
  split at h
  · cases h
  · split at h <;> cases h
    rfl

/-- Behind the name of its variant stands what a choice holds, and then the object is closed. -/
theorem readHolding_quote {d : Decoder α}
    (named : (variantName variants).parse name = .ok (.holding name d))
    (levels : Nat) (cs : List Char) :
    readHolding variants levels (quote name ++ ':' :: cs) = d.read levels cs >>= closeHolding := by
  have key := TextForm.read_quote named (':' :: cs)
  rw [quote_append] at key ⊢
  simp only [readHolding, variantKey, skipGaps_cons (show isGap '"' = false by decide), ↓reduceIte,
    key, colon_cons, bind, Except.bind]
  rfl

private theorem okWhen_readHolding {d : Decoder α} {v : Json}
    (named : (variantName variants).parse name = .ok (.holding name d))
    (text : Json.ReadsBack d.read v a) (levels : Nat) (rest : List Char) :
    OkWhen (v.nesting ≤ levels)
      (readHolding variants levels (quote name ++ ':' :: (v.spelling ++ '}' :: rest)))
      (a, rest) := by
  rw [readHolding_quote named]
  have held := text.okWhen levels ('}' :: rest) (delimited_cons (.inr (.inr rfl)) rest)
  exact (held.bind (q := True) (.of_ok (closeHolding_brace rest) trivial)).congr (by rw [and_true])

theorem spelling_holding (name : String) (v : Json) (rest : List Char) :
    (Json.object [(name, v)]).spelling ++ rest =
      '{' :: (quote name ++ ':' :: (v.spelling ++ '}' :: rest)) := by
  simp [spelling, membersSpelling]

private theorem keeps_holding {d : Decoder α} {v : Json} (written : write a = .object [(name, v)])
    (named : (variantName variants).parse name = .ok (.holding name d))
    (value : d.ofJson v.ordered = .ok a) (text : v.FloatFree → Json.ReadsBack d.read v a) :
    (choice variants write).Keeps a where
  value := by
    show (chooser variants).ofJson (write a).ordered = _
    simp only [written, ordered, orderedMembers, put, chooser, named, bind, Except.bind, value]
  text floatFree :=
    { opens := by
        show Opens (write a).spelling
        rw [written]
        exact opens_cons _
      okWhen := by
        intro levels rest _
        have held : v.FloatFree := by
          have all : (write a).FloatFree := floatFree
          rw [written] at all
          exact all.1
        show OkWhen ((write a).nesting ≤ levels)
          ((chooser variants).read levels ((write a).spelling ++ rest)) _
        rw [written]
        have one : (Json.object [(name, v)]).nesting = v.nesting + 1 := by
          simp only [nesting, membersNesting, Nat.max_zero]
        rw [spelling_holding, one]
        refine OkWhen.level (r := fun levels => (chooser variants).read levels _) ?_
          (fun levels => ?_) levels
        · exact ⟨_, rfl⟩
        · exact okWhen_readHolding named (text held) levels rest }

/-- The variant holds what a codec of its own reads and writes. -/
theorem Keeps.holding {c : Codec β} {b : β} (h : c.Keeps b) (variant : β → α)
    (written : write (variant b) = .object [(name, c.write b)])
    (named : (variantName variants).parse name = .ok (.holding name (c.toDecoder.map variant))) :
    (choice variants write).Keeps (variant b) :=
  keeps_holding written named (Decoder.ofJson_map h.value variant)
    fun floatFree => (h.text floatFree).map variant

end Choices

/-! ## Tagged texts -/

namespace Tagging

variable {t : Tagging α} {a : α} {form : TextForm α}

/-- The name of the variant of `a` leads to a form in which its text is read as `a`. -/
structure Spelled (t : Tagging α) (a : α) (form : TextForm α) : Prop where
  differ : t.content ≠ t.tag
  found : t.spellings.find? (fun p => p.1 == (t.split a).1) = some ((t.split a).1, form)
  parsed : form.parse (t.split a).2 = .ok a

theorem Spelled.named (h : t.Spelled a form) :
    (variantName (t.spellings.map fun p => Variant.plain p.1 p.2)).parse (t.split a).1 =
      .ok (.plain (t.split a).1 form) := by
  have same :
      ((fun p : String × Variant (TextForm α) => p.1 == (t.split a).1) ∘ fun v => (v.name, v)) ∘
        (fun p => Variant.plain p.1 p.2) =
      fun p : String × TextForm α => p.1 == (t.split a).1 := rfl
  simp only [variantName, TextForm.oneOf, List.find?_map, same, h.found, Option.map_some]

private theorem Spelled.tagReader_ofJson (h : t.Spelled a form) :
    t.tagReader.ofJson (.text (t.split a).1) = .ok form := by
  simp only [tagReader, chooser, h.named, bind, Except.bind]

private theorem Spelled.tagReader_read (h : t.Spelled a form) (levels : Nat) (rest : List Char) :
    t.tagReader.read levels (quote (t.split a).1 ++ rest) = .ok (form, rest) := by
  have read := TextForm.read_quote h.named rest
  rw [quote_append] at read ⊢
  simp only [tagReader, chooser, skipGaps_cons (show isGap '"' = false by decide), read, bind,
    Except.bind]

private theorem part?_tag : t.part? t.tag = some .tag := if_pos rfl

private theorem Spelled.part?_content (h : t.Spelled a form) :
    t.part? t.content = some .content := by
  rw [part?, if_neg h.differ, if_pos rfl]

private theorem next_of_key {first : Bool} {cs rest : List Char} {key : String} {part : Part}
    (at_ : anotherKey first cs = .ok (true, key.toList.flatMap escaped ++ '"' :: rest))
    (h : t.part? key = some part) : t.next first cs = .ok (some part, rest) := by
  simp only [next, nextPart, at_, readText_escaped, h, bind, Except.bind, ↓reduceIte]

private theorem noneLeft_end (rest : List Char) :
    t.noneLeft a ('}' :: rest) = .ok (a, '}' :: rest) := rfl

/-- The two members, the tag first, are read back. -/
theorem Spelled.readMembers (h : t.Spelled a form) (levels : Nat) (rest : List Char) :
    t.readMembers levels (quote t.tag ++ ':' :: (quote (t.split a).1 ++ ',' ::
      (quote t.content ++ ':' :: (quote (t.split a).2 ++ '}' :: rest)))) =
        .ok (a, '}' :: rest) := by
  have tag (more : List Char) : t.next true (quote t.tag ++ more) = .ok (some .tag, more) := by
    rw [quote_append]
    exact next_of_key (anotherKey_first _) part?_tag
  have content (more : List Char) :
      t.next false (',' :: (quote t.content ++ more)) = .ok (some .content, more) := by
    rw [quote_append]
    exact next_of_key (anotherKey_comma _) h.part?_content
  have held (more : List Char) := TextForm.read_quote h.parsed more
  simp only [Tagging.readMembers, tag, readTagFirst, colon_cons, bind, Except.bind,
    h.tagReader_read, content,
    held, noneLeft_end]

theorem Spelled.ofParts (h : t.Spelled a form) :
    t.ofParts [(.tag, .text (t.split a).1), (.content, .text (t.split a).2)] = .ok a ∧
      t.ofParts [(.content, .text (t.split a).2), (.tag, .text (t.split a).1)] = .ok a := by
  simp only [Tagging.ofParts, h.tagReader_ofJson, TextForm.ofJson, h.parsed, noneRepeated, bind,
    Except.bind, and_self]

end Tagging

theorem keeps_tagged {t : Tagging α} {a : α} {form : TextForm α} (h : t.Spelled a form) :
    (tagged t).Keeps a where
  value := by
    have both := h.ofParts
    show (tagged t).ofJson (Json.ordered (.object
      [(t.tag, .text (t.split a).1), (t.content, .text (t.split a).2)])) = _
    simp only [ordered, orderedMembers, put, if_neg h.differ]
    by_cases less : t.content < t.tag
    · simp only [if_pos less, tagged, List.filterMap_cons, List.filterMap_nil, Tagging.part?_tag,
        h.part?_content, Option.map_some, both.2]
    · simp only [if_neg less, tagged, List.filterMap_cons, List.filterMap_nil, Tagging.part?_tag,
        h.part?_content, Option.map_some, both.1]
  text _ :=
    { opens := opens_cons _
      okWhen := by
        intro levels rest _
        have shape : ((tagged t).write a).spelling ++ rest = '{' :: (quote t.tag ++ ':' ::
            (quote (t.split a).1 ++ ',' ::
              (quote t.content ++ ':' :: (quote (t.split a).2 ++ '}' :: rest)))) := by
          simp [tagged, spelling, membersSpelling]
        have one : ((tagged t).write a).nesting = 0 + 1 := rfl
        rw [shape, one]
        refine OkWhen.level (r := fun levels => (tagged t).read levels _) ?_
          (fun levels => ?_) levels
        · exact ⟨_, rfl⟩
        · exact OkWhen.inObject (.of_ok (h.readMembers levels rest) (Nat.zero_le levels)) }

end EventLineage.Codec
