/-! # Decimal and hexadecimal digits

Numbers are written most significant digit first. The width given to `padded` is the least number
of digits, reached by zeros in front. -/
namespace EventLineage.Text

def digitChar (d : Nat) : Char :=
  if d < 10 then Char.ofNat (48 + d) else Char.ofNat (87 + d)

/-- The digits of `n` in front of `tail`, one step for each of the first `fuel` digits. -/
def digitsOnto (base : Nat) : Nat → Nat → List Char → List Char
  | 0, _, tail => tail
  | fuel + 1, n, tail =>
    if n < base then digitChar n :: tail
    else digitsOnto base fuel (n / base) (digitChar (n % base) :: tail)

def decimal (n : Nat) : List Char := digitsOnto 10 (n + 1) n []

def hexadecimal (n : Nat) : List Char := digitsOnto 16 (n + 1) n []

def zeros (n : Nat) : List Char := List.replicate n '0'

def padTo (width : Nat) (cs : List Char) : List Char := zeros (width - cs.length) ++ cs

def padded (width n : Nat) : List Char := padTo width (decimal n)

/-- The value of a hexadecimal digit, in either case of letters. -/
def hexValue (c : Char) : Option Nat :=
  if '0' ≤ c ∧ c ≤ '9' then some (c.toNat - 48)
  else if 'a' ≤ c ∧ c ≤ 'f' then some (c.toNat - 87)
  else if 'A' ≤ c ∧ c ≤ 'F' then some (c.toNat - 55)
  else none

def isHexDigit (c : Char) : Bool := (hexValue c).isSome

def isDigit (c : Char) : Bool := '0' ≤ c && c ≤ '9'

def digitValue (c : Char) : Nat := c.toNat - 48

/-- The number written by digits of the given base, read from the left. -/
def valueOf (base : Nat) (digits : List Nat) : Nat :=
  digits.foldl (fun n d => base * n + d) 0

/-- The number that digits spell; there must be one at least. -/
def natural? (cs : List Char) : Option Nat :=
  if cs.isEmpty ∨ ¬ cs.all isDigit then none else some (valueOf 10 (cs.map digitValue))

/-- Characters without the plus sign that may stand in front of a number. -/
def withoutPlus : List Char → List Char
  | '+' :: rest => rest
  | cs => cs

theorem valueOf_append_singleton (base : Nat) (ds : List Nat) (d : Nat) :
    valueOf base (ds ++ [d]) = base * valueOf base ds + d := by
  simp [valueOf]

end EventLineage.Text
