import EventLineage.Json.Complaint

/-! # Reading numbers

An integer that fits in 64 bits is exact. Any other number is a significand of at most 64 bits and
a power of ten: digits that no longer fit are dropped, and each dropped digit in front of the point
counts as one power. -/
namespace EventLineage.Json
open Text

abbrev Reading (α : Type) := List Char → Except Stop (α × List Char)

/-- The digits of a number that fit in 64 bits, and how many came after those. -/
structure Significand where
  value : Nat
  dropped : Nat
  deriving Repr, DecidableEq

namespace Significand

def push (s : Significand) (c : Char) : Significand :=
  if s.dropped = 0 ∧ s.value * 10 + digitValue c < UInt64.size then ⟨s.value * 10 + digitValue c, 0⟩
  else ⟨s.value, s.dropped + 1⟩

def ofDigits (start : Nat) (ds : List Char) : Significand := ds.foldl push ⟨start, 0⟩

end Significand

def startsWithDigit : List Char → Bool
  | c :: _ => isDigit c
  | [] => false

def floatNumber (isNegative : Bool) (significand : Nat) (power : Int) : Reading Number := fun cs =>
  match Binary64.ofDecimal? significand power with
  | some x => .ok (.float (if isNegative then x.neg else x), cs)
  | none => .error (.here .numberOutOfRange cs)

/-- The largest exponent that is told apart from all larger ones. -/
def topExponent : Nat := 2147483647

/-- The value of the digits that follow, or nothing once it is too large; then the digits behind
that one are left. -/
def exponentDigits : Nat → List Char → Option Nat × List Char
  | n, [] => (some n, [])
  | n, c :: cs =>
    if isDigit c then
      if n * 10 + digitValue c ≤ topExponent then exponentDigits (n * 10 + digitValue c) cs
      else (none, cs)
    else (some n, c :: cs)

def clampExponent (k : Int) : Int := max (-2147483648) (min topExponent k)

/-- The exponent of a number, from behind its letter. -/
def exponentPart (isNegative : Bool) (significand : Nat) (power : Int) : Reading Number := fun cs =>
  let (down, cs) := match cs with
    | '+' :: rest => (false, rest)
    | '-' :: rest => (true, rest)
    | cs => (false, cs)
  match cs with
  | [] => .error (.here .endInValue [])
  | c :: rest =>
    if isDigit c then
      match exponentDigits (digitValue c) rest with
      | (some n, rest) =>
        floatNumber isNegative significand
          (clampExponent (if down then power - n else power + n)) rest
      | (none, rest) =>
        if significand ≠ 0 ∧ ¬down then .error (.here .numberOutOfRange rest)
        else floatNumber isNegative 0 0 (rest.dropWhile isDigit)
    else .error (.next .badNumber (c :: rest))

/-- The end of a number with a point or an exponent. -/
def exponentOrEnd (isNegative : Bool) (significand : Nat) (power : Int) : Reading Number
  | 'e' :: cs => exponentPart isNegative significand power cs
  | 'E' :: cs => exponentPart isNegative significand power cs
  | cs => floatNumber isNegative significand power cs

/-- The fraction of a number, from behind the point. -/
def fractionPart (isNegative : Bool) (integer : Significand) : Reading Number := fun cs =>
  let ds := cs.takeWhile isDigit
  if ds.isEmpty then .error (.next (if cs.isEmpty then .endInValue else .badNumber) cs)
  else
    let s := Significand.ofDigits integer.value ds
    let kept := ds.length - s.dropped
    exponentOrEnd isNegative s.value ((integer.dropped : Int) - kept) (cs.drop ds.length)

/-- What follows the digits in front of the point. -/
def integerOrMore (isNegative : Bool) (s : Significand) : Reading Number
  | '.' :: cs => fractionPart isNegative s cs
  | cs =>
    if cs.head? = some 'e' ∨ cs.head? = some 'E' ∨ s.dropped ≠ 0 then
      exponentOrEnd isNegative s.value s.dropped cs
    else if isNegative then
      match Number.ofNegated? s.value with
      | some n => .ok (n, cs)
      | none => floatNumber true s.value 0 cs
    else
      match Number.ofNat? s.value with
      | some n => .ok (n, cs)
      | none => floatNumber false s.value 0 cs

/-- A number, from behind its sign. -/
def numeral (isNegative : Bool) : Reading Number
  | [] => .error (.here .endInValue [])
  | '0' :: cs =>
    if startsWithDigit cs then .error (.next .badNumber cs)
    else integerOrMore isNegative ⟨0, 0⟩ cs
  | c :: cs =>
    if isDigit c then
      integerOrMore isNegative (.ofDigits 0 ((c :: cs).takeWhile isDigit)) (cs.dropWhile isDigit)
    else .error (.next .badNumber (c :: cs))

/-! ## Passing over a number -/

def skipExponent (cs : List Char) : Except Stop (List Char) :=
  let cs := match cs with
    | '+' :: rest => rest
    | '-' :: rest => rest
    | cs => cs
  if startsWithDigit cs then .ok (cs.dropWhile isDigit)
  else .error (.next .badNumber cs)

def skipExponentOrEnd : List Char → Except Stop (List Char)
  | 'e' :: cs => skipExponent cs
  | 'E' :: cs => skipExponent cs
  | cs => .ok cs

def skipFraction : List Char → Except Stop (List Char)
  | '.' :: cs =>
    if startsWithDigit cs then skipExponentOrEnd (cs.dropWhile isDigit)
    else .error (.next .badNumber cs)
  | cs => skipExponentOrEnd cs

/-- Pass over a number, from behind its sign; its size does not matter. -/
def skipNumeral : List Char → Except Stop (List Char)
  | '0' :: cs => if startsWithDigit cs then .error (.next .badNumber cs) else skipFraction cs
  | cs =>
    if startsWithDigit cs then skipFraction (cs.dropWhile isDigit)
    else .error (.next .badNumber cs)

end EventLineage.Json
