import EventLineage.Json.Record

/-! # Codecs of types with several variants

A choice is written as the name of its variant, or as an object whose one member has that name as
its key. A tagged text is written as an object of two members: one names the variant, the other
holds a text spelled as that variant asks. -/
namespace EventLineage
open Json

inductive Variant (α : Type) where
  /-- A variant that is its name alone. -/
  | plain (name : String) (value : α)
  /-- A variant that holds something, read in this way. -/
  | holding (name : String) (held : Decoder α)

namespace Variant

def name : Variant α → String
  | .plain name _ => name
  | .holding name _ => name

end Variant

/-- The name of one of several things. -/
def TextForm.oneOf (named : List (String × α)) : TextForm α where
  expected := "variant identifier"
  parse s :=
    match named.find? fun p => p.1 == s with
    | some p => .ok p.2
    | none => .error (unknownVariant s (named.map (·.1)))

namespace Codec

/-- The name of a variant. -/
def variantName (variants : List (Variant α)) : TextForm (Variant α) :=
  .oneOf (variants.map fun v => (v.name, v))

/-- The complaint about a name that stands where its variant should hold something. -/
def nothingHeld : String := wrongType "unit variant" "newtype variant"

/-- Read the name of a variant where the first key of an object stands. -/
def variantKey (variants : List (Variant α)) : Reading (Variant α) := fun cs =>
  match skipGaps cs with
  | [] => .error (.next .endInObject [])
  | c :: rest =>
    if c = '"' then (variantName variants).read (c :: rest)
    else if c = '}' then .error (.next .valueExpected (c :: rest))
    else .error (.next .keyNotText (c :: rest))

/-- Read a choice that is an object, from behind its brace. -/
def readHolding (variants : List (Variant α)) (levels : Nat) : Reading α := fun cs => do
  let (v, cs) ← variantKey variants cs
  let cs ← colon cs
  let (a, cs) ← match v with
    | .plain _ value => (readUnit cs).map fun (_, cs) => (value, cs)
    | .holding _ d => d.read levels cs
  match skipGaps cs with
  | [] => .error (.here .endInObject [])
  | c :: rest => if c = '}' then .ok (a, rest) else .error (.here .valueExpected (c :: rest))

def chooser (variants : List (Variant α)) : Decoder α where
  read levels cs :=
    match skipGaps cs, levels with
    | [], _ => .error (.next .endInValue [])
    | '{' :: rest, 0 => .error (.next .tooDeep ('{' :: rest))
    | '{' :: rest, levels + 1 => readHolding variants levels rest
    | '"' :: rest, _ => do
      let (v, cs) ← (variantName variants).read ('"' :: rest)
      match v with
      | .plain _ value => .ok (value, cs)
      | .holding _ _ => .error (.unplaced nothingHeld cs)
    | cs, _ => .error (.next .valueExpected cs)
  ofJson
    | .text s => do
      match ← (variantName variants).parse s with
      | .plain _ value => .ok value
      | .holding _ _ => .error nothingHeld
    | .object [(k, held)] => do
      match ← (variantName variants).parse k with
      | .plain _ value => (unitOfJson held).map fun _ => value
      | .holding _ d => d.ofJson held
    | .object _ => .error (wrongValue "map" "map with a single key")
    | v => .error (wrongType (met v) "string or map")

def choice (variants : List (Variant α)) (write : α → Json) : Codec α where
  toDecoder := chooser variants
  write := write

/-- The two members of a tagged text that matter. -/
inductive Part where
  | tag
  | content
  deriving Repr, DecidableEq

/-- A type with several variants, each of them spelled as a text. -/
structure Tagging (α : Type) where
  name : String
  tag : String
  content : String
  spellings : List (String × TextForm α)
  /-- The name and the text of the variant of a value. -/
  split : α → String × String

namespace Tagging

def expected (t : Tagging α) : String := s!"adjacently tagged enum {t.name}"

def key (t : Tagging α) : Part → String
  | .tag => t.tag
  | .content => t.content

def part? (t : Tagging α) (key : String) : Option Part :=
  if key = t.tag then some .tag else if key = t.content then some .content else none

def tagReader (t : Tagging α) : Decoder (TextForm α) :=
  chooser (t.spellings.map fun p => .plain p.1 p.2)

/-- Go to the next member that matters, passing over the others. -/
def nextPart (t : Tagging α) : Nat → Bool → Reading (Option Part)
  | 0, _, cs => .error (.here .endInObject cs)
  | fuel + 1, first, cs => do
    let (more, cs) ← anotherKey first cs
    if more then
      let (key, cs) ← readText cs
      match t.part? key with
      | some part => .ok (some part, cs)
      | none => do
        let cs ← colon cs
        let cs ← skipValue cs
        t.nextPart fuel false cs
    else .ok (none, cs)

def next (t : Tagging α) (first : Bool) : Reading (Option Part) := fun cs =>
  t.nextPart (cs.length + 1) first cs

/-- Once both members have been read none of them may follow. -/
def noneLeft (t : Tagging α) (a : α) : Reading α := fun cs => do
  match ← t.next false cs with
  | (some part, cs) => .error (.unplaced (Fields.repeated (t.key part)) cs)
  | (none, cs) => .ok (a, cs)

/-- Read on from behind the key of the tag, when that comes first. -/
def readTagFirst (t : Tagging α) (levels : Nat) : Reading α := fun cs => do
  let (w, cs) ← colon cs >>= t.tagReader.read levels
  match ← t.next false cs with
  | (some .tag, cs) => .error (.unplaced (Fields.repeated t.tag) cs)
  | (none, cs) => .error (.unplaced (Fields.missing t.content) cs)
  | (some .content, cs) => do
    let (a, cs) ← colon cs >>= w.read
    t.noneLeft a cs

/-- Read on from behind the key of the content, when that comes first. -/
def readContentFirst (t : Tagging α) (levels : Nat) : Reading α := fun cs => do
  let (v, cs) ← colon cs >>= value levels
  match ← t.next false cs with
  | (some .content, cs) => .error (.unplaced (Fields.repeated t.content) cs)
  | (none, cs) => .error (.unplaced (Fields.missing t.tag) cs)
  | (some .tag, cs) => do
    let (w, cs) ← colon cs >>= t.tagReader.read levels
    match w.ofJson v with
    | .ok a => t.noneLeft a cs
    | .error message => .error (.unplaced message cs)

def readMembers (t : Tagging α) (levels : Nat) : Reading α := fun cs => do
  match ← t.next true cs with
  | (some .tag, cs) => t.readTagFirst levels cs
  | (some .content, cs) => t.readContentFirst levels cs
  | (none, cs) => .error (.unplaced (Fields.missing t.tag) cs)

def readItems (t : Tagging α) : Reading α := fun cs => do
  let (more, cs) ← anotherItem true cs
  if more then
    let (w, cs) ← (TextForm.oneOf t.spellings).read cs
    let (more, cs) ← anotherItem false cs
    if more then w.read cs else .error (.unplaced (wrongLength 1 t.expected) cs)
  else .error (.unplaced (wrongLength 0 t.expected) cs)

def noneRepeated (t : Tagging α) (a : α) : List (Part × Json) → Except String α
  | [] => .ok a
  | (part, _) :: _ => .error (Fields.repeated (t.key part))

/-- Take the members that matter, in the order in which they stand. -/
def ofParts (t : Tagging α) : List (Part × Json) → Except String α
  | [] => .error (Fields.missing t.tag)
  | (.tag, v) :: rest => do
    let w ← t.tagReader.ofJson v
    match rest with
    | [] => .error (Fields.missing t.content)
    | (.tag, _) :: _ => .error (Fields.repeated t.tag)
    | (.content, held) :: rest => do
      let a ← w.ofJson held
      t.noneRepeated a rest
  | (.content, held) :: rest =>
    match rest with
    | [] => .error (Fields.missing t.tag)
    | (.content, _) :: _ => .error (Fields.repeated t.content)
    | (.tag, v) :: rest => do
      let w ← t.tagReader.ofJson v
      let a ← w.ofJson held
      t.noneRepeated a rest

def ofItems (t : Tagging α) : List Json → Except String α
  | [] => .error (wrongLength 0 t.expected)
  | v :: rest => do
    let w ← (TextForm.oneOf t.spellings).ofJson v
    match rest with
    | [] => .error (wrongLength 1 t.expected)
    | held :: rest => do
      let a ← w.ofJson held
      if rest.isEmpty then .ok a else .error (tooManyItems (rest.length + 2))

end Tagging

def tagged (t : Tagging α) : Codec α where
  write a := .object [(t.tag, .text (t.split a).1), (t.content, .text (t.split a).2)]
  read levels cs :=
    match skipGaps cs, levels with
    | '[' :: rest, 0 => .error (.next .tooDeep ('[' :: rest))
    | '{' :: rest, 0 => .error (.next .tooDeep ('{' :: rest))
    | '[' :: rest, _ + 1 => inList t.readItems rest
    | '{' :: rest, levels + 1 => inObject (t.readMembers levels) rest
    | cs, _ => .error (misfit t.expected cs)
  ofJson
    | .list vs => t.ofItems vs
    | .object members => t.ofParts (members.filterMap fun m => (t.part? m.1).map fun p => (p, m.2))
    | v => .error (wrongType (met v) t.expected)

end Codec
end EventLineage
