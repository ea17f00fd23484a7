import EventLineage.Number.Binary64
import EventLineage.Text.Digits

/-! # The shortest decimal spelling of a floating-point number

Among the decimals that read back to a number, the spelling takes one with the fewest digits; of
those the nearest; of two equally near the one whose last digit is even. Numbers from 10⁻⁵ up to
10¹⁶ are written with a point, others with an exponent that carries its sign. -/
namespace EventLineage.Binary64
open Text

/-- The largest `k` with `10 ^ k ≤ num / den`, for a quotient that is not zero. -/
def decimalExponent (num den : Nat) : Int :=
  if den ≤ num then (go 400 num den 0 : Nat) else -(goDown 400 num den 0 : Nat)
where
  go : Nat → Nat → Nat → Nat → Nat
    | 0, _, _, k => k
    | fuel + 1, num, den, k => if den * 10 ≤ num then go fuel num (den * 10) (k + 1) else k
  goDown : Nat → Nat → Nat → Nat → Nat
    | 0, _, _, k => k
    | fuel + 1, num, den, k => if den ≤ num then k else goDown fuel (num * 10) den (k + 1)

/-- A decimal: digits, and the power of ten that the last of them counts. -/
structure Decimal where
  digits : Nat
  power : Int
  deriving Repr, DecidableEq

/-- Whether `digits · 10 ^ power` lies among the reals that are rounded to `x`: the ends of that
interval belong to it exactly when the mantissa is even. All is counted in quarter units. -/
def holds (x : Binary64) (d : Decimal) : Bool :=
  let value := 4 * d.digits * unitScale * (if 0 ≤ d.power then Nat.pow 10 d.power.toNat else 1)
  let scale := if 0 ≤ d.power then 1 else Nat.pow 10 d.power.natAbs
  let step := Nat.pow 2 x.exponent
  let above := (4 * x.units + 2 * step) * scale
  let below :=
    (4 * x.units - (if x.mantissa = Nat.pow 2 52 ∧ 0 < x.exponent then step else 2 * step)) * scale
  if x.mantissa % 2 = 0 then below ≤ value && value ≤ above else below < value && value < above

/-- Of the two neighbours of `x` among the multiples of `10 ^ power`, the one to be written. -/
def onGrid (x : Binary64) (power : Int) : Option Decimal :=
  let num := x.units * (if 0 ≤ power then 1 else Nat.pow 10 power.natAbs)
  let den := unitScale * (if 0 ≤ power then Nat.pow 10 power.toNat else 1)
  let q := num / den
  let low : Decimal := ⟨q, power⟩
  let high : Decimal := ⟨q + 1, power⟩
  let lowFits := 0 < q && x.holds low
  if lowFits && x.holds high then some ⟨roundedQuotient num den, power⟩
  else if lowFits then some low
  else if x.holds high then some high
  else none

def search (x : Binary64) (top : Int) : Nat → Nat → Decimal
  | 0, _ => ⟨x.units, -1074⟩
  | fuel + 1, n => (x.onGrid (top + 1 - n)).getD (search x top fuel (n + 1))

/-- Digits without zeros at the end. -/
def trimmed : Nat → Decimal → Decimal
  | 0, d => d
  | fuel + 1, d =>
    if d.digits % 10 = 0 ∧ 0 < d.digits then trimmed fuel ⟨d.digits / 10, d.power + 1⟩ else d

def shortest (x : Binary64) : Decimal :=
  trimmed 20 (x.search (decimalExponent x.units unitScale) 17 1)

def exponentText (k : Int) : List Char :=
  (if k < 0 then ['e', '-'] else ['e', '+']) ++ decimal k.natAbs

/-- Digits with a point behind the first, if there are more. -/
def mantissaText : List Char → List Char
  | [] => []
  | [c] => [c]
  | c :: cs => c :: '.' :: cs

/-- `point` is the number of digits in front of the decimal point. -/
def decimalText (d : Decimal) : List Char :=
  let ds := decimal d.digits
  let point : Int := ds.length + d.power
  if 0 ≤ d.power ∧ point ≤ 16 then ds ++ zeros d.power.toNat ++ ['.', '0']
  else if 0 < point ∧ point ≤ 16 then ds.take point.toNat ++ '.' :: ds.drop point.toNat
  else if -5 < point ∧ point ≤ 0 then '0' :: '.' :: zeros point.natAbs ++ ds
  else mantissaText ds ++ exponentText (point - 1)

def spelling (x : Binary64) : List Char :=
  (if x.negative then ['-'] else []) ++
    (if x.isZero then ['0', '.', '0'] else decimalText x.shortest)

end EventLineage.Binary64
