/-! # Reading bytes as UTF-8

`decode` reads a sequence of bytes from the left. When no character can be read, it reports how
many bytes were good, and how many of the next ones are surely wrong; when the bytes end within a
character, there is nothing surely wrong. -/
namespace EventLineage.Text.Utf8

/-- Why a sequence of bytes is not a text: the number of good bytes before the fault, and the
number of faulty ones, or none when the bytes end too early. -/
structure Fault where
  good : Nat
  faulty : Option Nat
  deriving Repr, DecidableEq

def Fault.text (f : Fault) : String :=
  match f.faulty with
  | some n => s!"invalid utf-8 sequence of {n} bytes from index {f.good}"
  | none => s!"incomplete utf-8 byte sequence from index {f.good}"

/-- What a leading byte asks for: the number of bytes that follow, the range of the first of them,
and the part of the code point that the leading byte carries. -/
def lead (b : Nat) : Option (Nat × Nat × Nat × Nat) :=
  if b < 0x80 then some (0, 0, 0, b)
  else if b < 0xC2 then none
  else if b < 0xE0 then some (1, 0x80, 0xBF, b - 0xC0)
  else if b = 0xE0 then some (2, 0xA0, 0xBF, 0)
  else if b = 0xED then some (2, 0x80, 0x9F, b - 0xE0)
  else if b < 0xF0 then some (2, 0x80, 0xBF, b - 0xE0)
  else if b = 0xF0 then some (3, 0x90, 0xBF, 0)
  else if b < 0xF4 then some (3, 0x80, 0xBF, b - 0xF0)
  else if b = 0xF4 then some (3, 0x80, 0x8F, b - 0xF0)
  else none

/-- The bytes that follow a leading byte: `left` of them, the next one between `low` and `high`.
`seen` counts the bytes of this character read so far. -/
def follow : Nat → Nat → Nat → Nat → Nat → List Nat → Except (Option Nat) (Nat × List Nat)
  | 0, _, _, _, code, bs => .ok (code, bs)
  | _ + 1, _, _, _, _, [] => .error none
  | left + 1, low, high, seen, code, b :: bs =>
    if low ≤ b ∧ b ≤ high then follow left 0x80 0xBF (seen + 1) (code * 64 + (b - 0x80)) bs
    else .error (some seen)

def decodeFrom : Nat → Nat → List Char → List Nat → Except Fault (List Char)
  | 0, _, acc, _ => .ok acc.reverse
  | _ + 1, _, acc, [] => .ok acc.reverse
  | fuel + 1, good, acc, b :: bs =>
    match lead b with
    | none => .error ⟨good, some 1⟩
    | some (left, low, high, code) =>
      match follow left low high 1 code bs with
      | .error faulty => .error ⟨good, faulty⟩
      | .ok (code, rest) => decodeFrom fuel (good + left + 1) (Char.ofNat code :: acc) rest

def decode (bytes : List Nat) : Except Fault String :=
  (decodeFrom bytes.length 0 [] bytes).map String.ofList

end EventLineage.Text.Utf8
