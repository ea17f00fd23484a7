import EventLineage.Json.Reader
import EventLineage.Json.Printer

/-! # Codecs: one description for writing and reading a type

A codec writes values of a type as JSON and reads them back in two ways: straight from a text, where
a complaint names a place, or from a JSON value. Each combinator below says both ways side by side.
Reading a text meets its faults in the order in which they stand. -/
namespace EventLineage
open Json

/-- How a type is read. -/
structure Decoder (α : Type) where
  /-- Read from a text in which lists and objects may stand within each other so many times. -/
  read : Nat → Reading α
  /-- Read from a value; the complaint says what is wrong. -/
  ofJson : Json → Except String α
  /-- What an absent member of an object stands for, if it may be absent. -/
  absent : Option α := none

structure Codec (α : Type) extends Decoder α where
  write : α → Json

/-- How a type is read from its spellings, and what is asked for where one of them should stand. -/
structure TextForm (α : Type) where
  expected : String
  parse : String → Except String α

/-- How a type is spelled in texts. -/
structure Wording (α : Type) extends TextForm α where
  print : α → String

namespace Json

/-- The complaint about a value of the wrong kind. When the value cannot even be read, that is the
complaint; lists and objects are not read. -/
def misfit (expected : String) (cs : List Char) : Stop :=
  let met (found : String) (rest : List Char) : Stop :=
    .here (.said (wrongType found expected)) rest
  let settle (r : Except Stop (String × List Char)) : Stop :=
    match r with
    | .ok (found, rest) => met found rest
    | .error stop => stop
  match skipGaps cs with
  | [] => .next .endInValue []
  | 'n' :: rest => settle ((word "ull".toList rest).map fun rest => (Json.met .null, rest))
  | 't' :: rest => settle ((word "rue".toList rest).map fun rest => (Json.met (.bool true), rest))
  | 'f' :: rest => settle ((word "alse".toList rest).map fun rest => (Json.met (.bool false), rest))
  | '"' :: rest => settle ((readText rest).map fun (s, rest) => (Json.met (.text s), rest))
  | '-' :: rest => settle ((numeral true rest).map fun (n, rest) => (Number.met n, rest))
  | '[' :: rest => met (Json.met (.list [])) ('[' :: rest)
  | '{' :: rest => met (Json.met (.object [])) ('{' :: rest)
  | c :: rest =>
    if Text.isDigit c then
      settle ((numeral false (c :: rest)).map fun (n, rest) => (Number.met n, rest))
    else .next .valueExpected (c :: rest)

/-- Read the null of a type that has one value only. -/
def readUnit : Reading Unit := fun cs =>
  match skipGaps cs with
  | 'n' :: rest => (word "ull".toList rest).map fun rest => ((), rest)
  | cs => .error (misfit "unit" cs)

def unitOfJson : Json → Except String Unit
  | .null => .ok ()
  | v => .error (wrongType (met v) "unit")

end Json

namespace TextForm

def map (f : α → β) (w : TextForm α) : TextForm β := ⟨w.expected, fun s => (w.parse s).map f⟩

def read (w : TextForm α) : Reading α := fun cs =>
  match skipGaps cs with
  | '"' :: rest => do
    let (s, rest) ← readText rest
    match w.parse s with
    | .ok a => .ok (a, rest)
    | .error message => .error (.here (.said message) rest)
  | cs => .error (misfit w.expected cs)

def ofJson (w : TextForm α) : Json → Except String α
  | .text s => w.parse s
  | v => .error (wrongType (met v) w.expected)

end TextForm

namespace Wording

def codec (w : Wording α) : Codec α where
  write a := .text (w.print a)
  read _ := w.read
  ofJson := w.ofJson

def string : Wording String where
  expected := "a string"
  parse := .ok
  print := id

end Wording

/-- Read something that stands for a value of another type. -/
def Decoder.map (f : α → β) (d : Decoder α) : Decoder β where
  read levels cs := (d.read levels cs).map fun (a, rest) => (f a, rest)
  ofJson v := (d.ofJson v).map f
  absent := d.absent.map f

namespace Codec

/-- Read a whole text. -/
def fromText (c : Codec α) (s : String) : Except Complaint α := readWhole c.read s

def toText (c : Codec α) (a : α) : String := (c.write a).render

/-- Read a value. -/
def fromValue (c : Codec α) (v : Payload) : Except Complaint α :=
  match c.ofJson v.json with
  | .ok a => .ok a
  | .error message => .error ⟨message, none⟩

def toValue (c : Codec α) (a : α) : Payload := .ofJson (c.write a)

def string : Codec String := Wording.string.codec

def map (c : Codec α) (there : α → β) (back : β → α) : Codec β where
  toDecoder := c.toDecoder.map there
  write b := c.write (back b)

/-- Values that are checked once they have been read. -/
def checked (c : Codec α) (check : α → Except String β) (back : β → α) : Codec β where
  write b := c.write (back b)
  read levels cs := do
    let (a, rest) ← c.read levels cs
    match check a with
    | .ok b => .ok (b, rest)
    | .error message => .error (.unplaced message rest)
  ofJson v := c.ofJson v >>= check

/-- An integer in a range: outside of it the value is wrong, and a number that is no integer is of
the wrong kind. -/
def fit (expected : String) (ofInt : Int → Option α) (n : Number) : Except String α :=
  match n.toInt? with
  | none => .error (wrongType (Number.met n) expected)
  | some i =>
    match ofInt i with
    | some a => .ok a
    | none => .error (wrongValue (Number.met n) expected)

def integer (expected : String) (ofInt : Int → Option α) (number : α → Number) : Codec α where
  write a := .number (number a)
  read _ cs :=
    let settle (n : Number) (rest : List Char) : Except Stop (α × List Char) :=
      match fit expected ofInt n with
      | .ok a => .ok (a, rest)
      | .error message => .error (.here (.said message) rest)
    match skipGaps cs with
    | '-' :: rest => do
      let (n, rest) ← numeral true rest
      settle n rest
    | c :: rest =>
      if Text.isDigit c then do
        let (n, rest) ← numeral false (c :: rest)
        settle n rest
      else .error (misfit expected (c :: rest))
    | [] => .error (misfit expected [])
  ofJson
    | .number n => fit expected ofInt n
    | v => .error (wrongType (met v) expected)

/-- Naturals of 64 bits. -/
def unsigned64 : Codec UInt64 :=
  integer "u64" (fun i => if 0 ≤ i ∧ i < UInt64.size then some (.ofNat i.toNat) else none)
    fun n => .natural n.toFin

/-- Naturals of 8 bits. -/
def unsigned8 : Codec UInt8 :=
  integer "u8" (fun i => if 0 ≤ i ∧ i < UInt8.size then some (.ofNat i.toNat) else none)
    fun n => .natural (n.toFin.castLE (by decide))

/-- The number of an integer of 64 bits with a sign. -/
def signedNumber (n : Int64) : Number :=
  if below : n.toInt < 0 then
    .negative ⟨n.toInt.natAbs - 1, by
      have := n.le_toInt
      simp only [UInt64.size]
      omega⟩
  else
    .natural ⟨n.toInt.toNat, by
      have := n.toInt_lt
      simp only [UInt64.size]
      omega⟩

/-- Integers of 64 bits with a sign. -/
def signed64 : Codec Int64 :=
  integer "i64"
    (fun i =>
      if -9223372036854775808 ≤ i ∧ i < 9223372036854775808 then some (.ofInt i) else none)
    signedNumber

/-- A value that may be missing: null stands for that, and so does an absent member. -/
def optional (c : Codec α) : Codec (Option α) where
  write
    | none => .null
    | some a => c.write a
  read levels cs :=
    match skipGaps cs with
    | 'n' :: rest => (word "ull".toList rest).map fun rest => (none, rest)
    | cs => (c.read levels cs).map fun (a, rest) => (some a, rest)
  ofJson
    | .null => .ok none
    | v => (c.ofJson v).map some
  absent := some none

/-- Read the items of a list with the reader that the nesting leaves. -/
def readItems (c : Codec α) (levels : Nat) : Reading (List α) := fun cs =>
  inList (items (c.read levels) (cs.length + 1) true []) cs

def list (c : Codec α) : Codec (List α) where
  write as := .list (as.map c.write)
  read levels cs :=
    match skipGaps cs, levels with
    | '[' :: rest, 0 => .error (.next .tooDeep ('[' :: rest))
    | '[' :: rest, levels + 1 => c.readItems levels rest
    | cs, _ => .error (misfit "a sequence" cs)
  ofJson
    | .list vs => vs.mapM c.ofJson
    | v => .error (wrongType (met v) "a sequence")

/-- Any value. -/
def payload : Codec Payload where
  write p := p.json
  read levels cs := (value levels cs).map fun (v, rest) => (.ofJson v, rest)
  ofJson v := .ok (.ofJson v)

end Codec
end EventLineage
