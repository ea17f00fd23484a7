/-! # Finite binary floating-point numbers of 64 bits

A number is ± m · 2^(e − 1074) with m < 2^53, and m ≥ 2^52 unless e = 0, so that each value but
zero has one form. Results are rounded to the nearest such number, a tie going to the even
mantissa; what is too large for any is refused. All of it is exact arithmetic on naturals. -/
namespace EventLineage

structure Binary64 where
  negative : Bool
  mantissa : Nat
  exponent : Nat
  deriving Repr, DecidableEq

namespace Binary64

/-- Values are natural multiples of 1 / 2 ^ 1074. -/
def unitScale : Nat := Nat.pow 2 1074

/-- The largest exponent of a finite number. -/
def topExponent : Nat := 2045

/-- The quotient rounded to a nearest natural, to the even one of two. -/
def roundedQuotient (num den : Nat) : Nat :=
  let q := num / den
  let r := 2 * (num % den)
  if r < den then q
  else if den < r then q + 1
  else if q % 2 = 0 then q else q + 1

/-- The number nearest to `num / den` units. -/
def ofUnits? (num den : Nat) : Option Binary64 :=
  let q := num / den
  let e := if q < Nat.pow 2 53 then 0 else q.log2 - 52
  let m := roundedQuotient num (den * Nat.pow 2 e)
  let (m, e) := if m = Nat.pow 2 53 then (Nat.pow 2 52, e + 1) else (m, e)
  if e ≤ topExponent then some ⟨false, m, e⟩ else none

def ofRatio? (num den : Nat) : Option Binary64 := ofUnits? (num * unitScale) den

def zero : Binary64 := ⟨false, 0, 0⟩

def isZero (x : Binary64) : Bool := x.mantissa == 0

def neg (x : Binary64) : Binary64 := { x with negative := !x.negative }

/-- The distance from zero in units. -/
def units (x : Binary64) : Nat := x.mantissa * Nat.pow 2 x.exponent

def ofNat (n : Nat) : Binary64 := (ofRatio? n 1).getD zero

def mul? (x y : Binary64) : Option Binary64 :=
  (ofUnits? (x.units * y.units) unitScale).map
    fun z => { z with negative := x.negative != y.negative }

def div? (x y : Binary64) : Option Binary64 :=
  (ofUnits? (x.units * unitScale) y.units).map
    fun z => { z with negative := x.negative != y.negative }

/-- Equality of values: the two zeros are equal. -/
def same (x y : Binary64) : Bool := (x.isZero && y.isZero) || x == y

/-- The powers of ten that are finite, each the nearest number to its exact value. -/
def powerOfTen (k : Nat) : Binary64 := ofNat (Nat.pow 10 k)

/-- The largest exponent of ten that `powerOfTen` is used with. -/
def topPower : Nat := 308

/-- A natural times a power of ten, with one rounding for the natural, one for the power, and one
for each product or quotient: a very small exponent is met in steps. -/
def scaled? : Nat → Binary64 → Int → Option Binary64
  | 0, x, _ => some x
  | steps + 1, x, k =>
    if 0 ≤ k then
      if k ≤ topPower then x.mul? (powerOfTen k.toNat)
      else if x.isZero then some x else none
    else if -topPower ≤ k then x.div? (powerOfTen k.natAbs)
    else if x.isZero then some x
    else (x.div? (powerOfTen topPower)).bind fun y => scaled? steps y (k + topPower)

def ofDecimal? (significand : Nat) (k : Int) : Option Binary64 := scaled? 4 (ofNat significand) k

end Binary64
end EventLineage
