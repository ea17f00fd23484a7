import EventLineage.Text.Blank
import EventLineage.Text.Digits

/-! # Instants of universal time and their RFC 3339 spelling

An instant is a day of the Gregorian calendar and a time of day in universal time. The last
nanoseconds of a minute may be those of a leap second: they are counted from 10⁹ on.

Reading is lenient: blanks may stand in front of each number, digits need no padding, a year outside
0–9999 carries a sign, and the offset may be `Z`, `UTC` or hours and minutes with either minus sign.
Writing uses four-digit years where they suffice, and 0, 3, 6 or 9 digits of a second. -/
namespace EventLineage
open Text

structure Date where
  year : Int
  month : Nat
  day : Nat
  deriving Repr, DecidableEq

structure Instant where
  date : Date
  /-- Seconds since midnight. -/
  second : Nat
  /-- Nanoseconds within the second, from 10⁹ on within a leap second. -/
  nano : Nat
  deriving Repr, DecidableEq

namespace Date

def isLeapYear (year : Int) : Bool := year % 4 == 0 && (year % 100 != 0 || year % 400 == 0)

def monthLength (year : Int) (month : Nat) : Nat :=
  if month = 2 then (if isLeapYear year then 29 else 28)
  else if month = 4 ∨ month = 6 ∨ month = 9 ∨ month = 11 then 30
  else 31

/-- The years that have dates. -/
def inCalendar (year : Int) : Bool := -262143 ≤ year && year ≤ 262142

def ofParts? (year : Int) (month day : Nat) : Option Date :=
  if inCalendar year ∧ 1 ≤ month ∧ month ≤ 12 ∧ 1 ≤ day ∧ day ≤ monthLength year month
  then some ⟨year, month, day⟩ else none

def next? (d : Date) : Option Date :=
  if d.day < monthLength d.year d.month then some { d with day := d.day + 1 }
  else if d.month < 12 then some { d with month := d.month + 1, day := 1 }
  else if inCalendar (d.year + 1) then some ⟨d.year + 1, 1, 1⟩ else none

def previous? (d : Date) : Option Date :=
  if 1 < d.day then some { d with day := d.day - 1 }
  else if 1 < d.month then
    some { d with month := d.month - 1, day := monthLength d.year (d.month - 1) }
  else if inCalendar (d.year - 1) then some ⟨d.year - 1, 12, 31⟩ else none

/-- Years up to 9999 have four digits; others carry a sign. -/
def yearText (year : Int) : List Char :=
  if 0 ≤ year ∧ year ≤ 9999 then padded 4 year.toNat
  else if 0 ≤ year then '+' :: padded 4 year.toNat
  else '-' :: padded 4 year.natAbs

def text (d : Date) : List Char :=
  yearText d.year ++ '-' :: padded 2 d.month ++ '-' :: padded 2 d.day

end Date

namespace Instant

inductive Fault where
  | outOfRange
  | impossible
  | invalid
  | tooShort
  | tooLong
  deriving Repr, DecidableEq

def Fault.text : Fault → String
  | .outOfRange => "input is out of range"
  | .impossible => "no possible date and time matching input"
  | .invalid => "input contains invalid characters"
  | .tooShort => "premature end of input"
  | .tooLong => "trailing input"

/-! ## Writing -/

/-- The fraction of a second, in groups of three digits, as few as show it whole. -/
def fraction (nano : Nat) : List Char :=
  if nano = 0 then []
  else if nano % 1000000 = 0 then '.' :: padded 3 (nano / 1000000)
  else if nano % 1000 = 0 then '.' :: padded 6 (nano / 1000)
  else '.' :: padded 9 nano

def timeText (second nano : Nat) : List Char :=
  let (s, n) :=
    if nano < 1000000000 then (second % 60, nano) else (second % 60 + 1, nano - 1000000000)
  padded 2 (second / 3600) ++ ':' :: padded 2 (second / 60 % 60) ++ ':' :: padded 2 s ++ fraction n

def spelling (t : Instant) : List Char :=
  t.date.text ++ 'T' :: timeText t.second t.nano ++ ['Z']

def text (t : Instant) : String := String.ofList t.spelling

instance : ToString Instant := ⟨text⟩

/-! ## Reading -/

abbrev Reading (α : Type) := List Char → Except Fault (α × List Char)

/-- Numbers from 2⁶³ on are too large for a component. -/
def numberLimit : Nat := 9223372036854775808

/-- At least one and at most `most` digits, or as many as there are. -/
def number (most : Option Nat) : Reading Nat := fun cs =>
  let ds := (match most with | some n => cs.take n | none => cs).takeWhile isDigit
  if cs.isEmpty then .error .tooShort
  else if ds.isEmpty then .error .invalid
  else
    let n := valueOf 10 (ds.map digitValue)
    if n < numberLimit then .ok (n, cs.drop ds.length) else .error .outOfRange

def mark (c : Char) : Reading Unit
  | [] => .error .tooShort
  | d :: cs => if d = c then .ok ((), cs) else .error .invalid

def yearPart : Reading Int := fun cs =>
  match trimStart cs with
  | '-' :: rest => do
    let (n, rest) ← number none rest
    .ok (-(n : Int), rest)
  | '+' :: rest => do
    let (n, rest) ← number none rest
    .ok ((n : Int), rest)
  | cs => do
    let (n, rest) ← number (some 4) cs
    .ok ((n : Int), rest)

/-- A signed year must fit in 32 bits. -/
def year : Reading Int := fun cs => do
  let (y, rest) ← yearPart cs
  if -2147483648 ≤ y ∧ y < 2147483648 then .ok (y, rest) else .error .outOfRange

/-- One or two digits after blanks, within the given bounds. -/
def component (low high : Nat) : Reading Nat := fun cs => do
  let (n, rest) ← number (some 2) (trimStart cs)
  if low ≤ n ∧ n ≤ high then .ok (n, rest) else .error .outOfRange

/-- Digits after the point: the first nine count, the others are passed over. -/
def nanoseconds : Reading Nat
  | '.' :: cs => do
    let (n, rest) ← number (some 9) cs
    let used := cs.length - rest.length
    .ok (n * Nat.pow 10 (9 - used), rest.dropWhile isDigit)
  | cs => .ok (0, cs)

def offsetSign : Reading Int
  | [] => .error .tooShort
  | c :: cs =>
    if c = '+' then .ok (1, cs)
    else if c = '-' ∨ c = '\u2212' then .ok (-1, cs)
    else .error .invalid

/-- Hours of an offset: exactly two digits. -/
def offsetHours : Reading Nat := fun cs =>
  if (cs.take 2).foldl (fun n c => n + c.utf8Size) 0 < 2 then .error .tooShort
  else match cs with
    | a :: b :: rest =>
      if isDigit a ∧ isDigit b then .ok (digitValue a * 10 + digitValue b, rest)
      else .error .invalid
    | _ => .error .invalid

/-- Minutes of an offset: two digits below sixty. -/
def offsetMinutes : Reading Nat := fun cs =>
  if (cs.take 2).foldl (fun n c => n + c.utf8Size) 0 < 2 then .error .tooShort
  else match cs with
    | a :: b :: rest =>
      if isDigit a ∧ isDigit b then
        if a < '6' then .ok (digitValue a * 10 + digitValue b, rest) else .error .outOfRange
      else .error .invalid
    | _ => .error .invalid

/-- The offset from universal time in seconds. -/
def offset : Reading Int := fun cs =>
  if (cs.take 3).map Char.toUpper = ['U', 'T', 'C'] then .ok (0, cs.drop 3)
  else match cs with
    | 'Z' :: rest => .ok (0, rest)
    | 'z' :: rest => .ok (0, rest)
    | cs => do
      let (sign, cs) ← offsetSign cs
      let (hours, cs) ← offsetHours cs
      let (minutes, cs) ← offsetMinutes (cs.dropWhile fun c => c = ':' || isBlank c)
      .ok (sign * (hours * 3600 + minutes * 60 : Nat), cs)

def separator : Reading Unit
  | [] => .error .tooShort
  | c :: cs => if c = 'T' ∨ c = 't' ∨ c = ' ' then .ok ((), cs) else .error .invalid

/-- The components of a spelling, before it is known whether they make an instant. -/
structure Parts where
  year : Int
  month : Nat
  day : Nat
  hour : Nat
  minute : Nat
  second : Nat
  nano : Nat
  offset : Int
  deriving Repr, DecidableEq

def parts (cs : List Char) : Except Fault Parts := do
  let (y, cs) ← year cs
  let (_, cs) ← mark '-' (trimStart cs)
  let (mo, cs) ← component 1 12 cs
  let (_, cs) ← mark '-' (trimStart cs)
  let (d, cs) ← component 1 31 cs
  let (_, cs) ← separator cs
  let (h, cs) ← component 0 23 cs
  let (_, cs) ← mark ':' (trimStart cs)
  let (mi, cs) ← component 0 59 cs
  let (_, cs) ← mark ':' (trimStart cs)
  let (s, cs) ← component 0 60 cs
  let (n, cs) ← nanoseconds cs
  let (o, cs) ← offset (trimStart cs)
  if (trimStart cs).isEmpty then .ok ⟨y, mo, d, h, mi, s, n, o⟩ else .error .tooLong

/-- Move a local time of day by less than a day. -/
def shift (date : Date) (second : Int) (nano : Nat) : Option Instant :=
  if second < 0 then date.previous?.map fun d => ⟨d, (second + 86400).toNat, nano⟩
  else if second < 86400 then some ⟨date, second.toNat, nano⟩
  else date.next?.map fun d => ⟨d, (second - 86400).toNat, nano⟩

/-- The instant that local components name; second 60 is a leap second after second 59. -/
def ofParts (p : Parts) : Except Fault Instant :=
  match Date.ofParts? p.year p.month p.day with
  | none => .error .outOfRange
  | some date =>
    if p.offset ≤ -86400 ∨ 86400 ≤ p.offset then .error .outOfRange
    else
      let (s, n) := if p.second = 60 then (59, p.nano + 1000000000) else (p.second, p.nano)
      let clock : Int := (p.hour * 3600 + p.minute * 60 + s : Nat)
      match shift date (clock - p.offset) n with
      | some t => .ok t
      | none => .error .impossible

def parse (s : String) : Except Fault Instant := parts s.toList >>= ofParts

end Instant
end EventLineage
