import EventLineage.Json.Codec

/-! # Codecs of records

A record is written as an object whose members stand in the order of its fields. It is read from an
object with its members in any order, unknown ones being passed over and repeated ones refused, or
from a list of its fields. -/
namespace EventLineage
open Json

/-- What can be done with a member whose key has been read, while `σ` has been gathered. -/
inductive Slot (σ : Type) where
  | unknown
  | filled
  | free (read : Nat → Reading σ) (ofJson : Json → Except String σ)

/-- The fields of a record of type `ρ`, gathered one by one in a `σ`. -/
structure Fields (σ ρ : Type) where
  size : Nat
  /-- Nothing gathered. -/
  start : σ
  slot : String → σ → Slot σ
  /-- The record, or the name of the first field that is missing. -/
  finish : σ → Except String ρ
  /-- Read the fields in order from a list, from the index and first item given on. -/
  readItems : Nat → Nat → Bool → String → Reading ρ
  /-- Take the fields in order from the items of a list, and give the items that are left. -/
  ofItems : Nat → String → List Json → Except String (ρ × List Json)
  write : ρ → List (String × Json)

namespace Slot

def map (f : σ → τ) : Slot σ → Slot τ
  | .unknown => .unknown
  | .filled => .filled
  | .free read ofJson =>
    .free (fun levels cs => (read levels cs).map fun (s, rest) => (f s, rest))
      fun v => (ofJson v).map f

/-- The slot of a field of which nothing, or this much, has been gathered. -/
def ofField (c : Codec α) : Option α → Slot (Option α)
  | some _ => .filled
  | none =>
    .free (fun levels cs => (c.read levels cs).map fun (a, rest) => (some a, rest))
      fun v => (c.ofJson v).map some

end Slot

namespace Fields

def none : Fields Unit Unit where
  size := 0
  start := ()
  slot _ _ := .unknown
  finish _ := .ok ()
  readItems _ _ _ _ cs := .ok ((), cs)
  ofItems _ _ vs := .ok ((), vs)
  write _ := []

/-- One more field, in front of the others. -/
def field (name : String) (c : Codec α) (others : Fields σ ρ) : Fields (Option α × σ) (α × ρ) where
  size := others.size + 1
  start := (Option.none, others.start)
  slot key gathered :=
    if key = name then (Slot.ofField c gathered.1).map fun a => (a, gathered.2)
    else (others.slot key gathered.2).map fun s => (gathered.1, s)
  finish gathered :=
    match gathered.1.or c.absent with
    | some a => (others.finish gathered.2).map fun r => (a, r)
    | Option.none => .error name
  readItems levels index first expected cs := do
    let (more, cs) ← anotherItem first cs
    if more then
      let (a, cs) ← c.read levels cs
      let (r, cs) ← others.readItems levels (index + 1) false expected cs
      .ok ((a, r), cs)
    else .error (.unplaced (wrongLength index expected) cs)
  ofItems index expected
    | [] => .error (wrongLength index expected)
    | v :: vs => do
      let a ← c.ofJson v
      let (r, vs) ← others.ofItems (index + 1) expected vs
      .ok ((a, r), vs)
  write r := (name, c.write r.1) :: others.write r.2

def missing (name : String) : String := s!"missing field `{name}`"

def repeated (name : String) : String := s!"duplicate field `{name}`"

/-- Read the members of an object up to its brace. -/
def readMembers (f : Fields σ ρ) (levels : Nat) : Nat → Bool → σ → Reading ρ
  | 0, _, _, cs => .error (.here .endInObject cs)
  | fuel + 1, first, gathered, cs => do
    let (more, cs) ← anotherKey first cs
    if more then
      let (key, cs) ← readText cs
      match f.slot key gathered with
      | .filled => .error (.unplaced (repeated key) cs)
      | .unknown => do
        let cs ← colon cs
        let cs ← skipValue cs
        f.readMembers levels fuel false gathered cs
      | .free read _ => do
        let cs ← colon cs
        let (gathered, cs) ← read levels cs
        f.readMembers levels fuel false gathered cs
    else
      match f.finish gathered with
      | .ok r => .ok (r, cs)
      | .error name => .error (.unplaced (missing name) cs)

/-- Take one member of an object. -/
def takeMember (f : Fields σ ρ) (gathered : σ) (member : String × Json) : Except String σ :=
  match f.slot member.1 gathered with
  | .filled => .error (repeated member.1)
  | .unknown => .ok gathered
  | .free _ ofJson => ofJson member.2

def ofMembers (f : Fields σ ρ) (members : List (String × Json)) : Except String ρ := do
  let gathered ← members.foldlM f.takeMember f.start
  match f.finish gathered with
  | .ok r => .ok r
  | .error name => .error (missing name)

def sizeText (name : String) (size : Nat) : String :=
  if size = 1 then s!"struct {name} with 1 element" else s!"struct {name} with {size} elements"

end Fields

/-- The complaint about a list that holds more items than were asked for. -/
def Json.tooManyItems (count : Nat) : String := wrongLength count "fewer elements in array"

namespace Codec

/-- A record with a name and fields. -/
def record (name : String) (f : Fields σ ρ) : Codec ρ where
  write r := .object (f.write r)
  read levels cs :=
    match skipGaps cs, levels with
    | '[' :: rest, 0 => .error (.next .tooDeep ('[' :: rest))
    | '{' :: rest, 0 => .error (.next .tooDeep ('{' :: rest))
    | '[' :: rest, levels + 1 =>
      inList (f.readItems levels 0 true (Fields.sizeText name f.size)) rest
    | '{' :: rest, levels + 1 => inObject (f.readMembers levels (rest.length + 1) true f.start) rest
    | cs, _ => .error (misfit s!"struct {name}" cs)
  ofJson
    | .list vs => do
      let (r, left) ← f.ofItems 0 (Fields.sizeText name f.size) vs
      if left.isEmpty then .ok r else .error (tooManyItems vs.length)
    | .object members => f.ofMembers members
    | v => .error (wrongType (met v) s!"struct {name}")

end Codec
end EventLineage
