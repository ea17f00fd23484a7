import EventLineage.Text.Bytes
import EventLineage.Text.Digits

/-! # Universally unique identifiers and their spellings

An identifier is a word of 128 bits. It is written as thirty-two lower-case hexadecimal digits in
five groups. It is read in either case, plain or in groups, and a grouped spelling may stand in
braces or behind `urn:uuid:`. -/
namespace EventLineage

structure Uuid where
  bits : BitVec 128
  deriving Repr, DecidableEq

namespace Uuid
open Text

/-- The lengths of the five groups of digits. -/
def groups : List Nat := [8, 4, 4, 4, 12]

def ofNat (n : Nat) : Uuid := ⟨BitVec.ofNat 128 n⟩

def digits (u : Uuid) : List Char := padTo 32 (hexadecimal u.bits.toNat)

/-- Characters cut into groups of the given lengths, with a hyphen between two groups. -/
def hyphenate : List Nat → List Char → List Char
  | [], _ => []
  | [n], cs => cs.take n
  | n :: ns, cs => cs.take n ++ '-' :: hyphenate ns (cs.drop n)

def spelling (u : Uuid) : List Char := hyphenate groups u.digits

def text (u : Uuid) : String := String.ofList u.spelling

instance : ToString Uuid := ⟨text⟩

/-- The version number, kept in the four bits after the first twelve digits. -/
def version (u : Uuid) : Nat := u.bits.toNat / Nat.pow 2 76 % 16

/-- The identifier made at a time in milliseconds: the time comes first, so that later identifiers
are greater; behind it come the version 7, twelve more bits, the variant and sixty-two more bits. -/
def timeOrdered (millis high low : Nat) : Uuid :=
  ofNat (millis % Nat.pow 2 48 * Nat.pow 2 80 + 7 * Nat.pow 2 76 +
    high % Nat.pow 2 12 * Nat.pow 2 64 + 2 * Nat.pow 2 62 + low % Nat.pow 2 62)

inductive Fault where
  | character (c : Char) (index : Nat)
  | groupCount (found : Nat)
  | groupLength (group expected found : Nat)
  | length (found : Nat)
  deriving Repr, DecidableEq

def Fault.text : Fault → String
  | .character c i => s!"invalid character: found `{c}` at {i}"
  | .groupCount n => s!"invalid group count: expected 5, found {n}"
  | .groupLength g e n => s!"invalid group length in group {g}: expected {e}, found {n}"
  | .length n => s!"invalid length: found {n}"

def ofDigits (cs : List Char) : Option Uuid :=
  (cs.mapM hexValue).map fun ds => ofNat (valueOf 16 ds)

/-- Digits in groups of the given lengths with hyphens between them, without the hyphens. -/
def unhyphenate : List Nat → List Char → Option (List Char)
  | [], _ => none
  | [n], cs => if cs.length = n then some cs else none
  | n :: ns, cs =>
    match cs.drop n with
    | '-' :: rest => (unhyphenate ns rest).map (cs.take n ++ ·)
    | _ => none

def grouped (cs : List Char) : Option Uuid := unhyphenate groups cs >>= ofDigits

/-- What stands between braces, if the characters do. -/
def betweenBraces : List Char → Option (List Char)
  | '{' :: rest => if rest.getLast? = some '}' then some rest.dropLast else none
  | _ => none

def urnMark : List Char := "urn:uuid:".toList

/-- What follows the mark of a uniform resource name, if the characters start with it. -/
def afterUrn (cs : List Char) : Option (List Char) :=
  if (cs.take 9).map Char.toLower = urnMark then some (cs.drop 9) else none

/-- The groups of a text whose length in bytes is that of groups alone, of groups in braces or of
groups behind the mark, and that has the braces or the mark. -/
def groupedPart? (cs : List Char) : Option (List Char) :=
  match byteCount cs with
  | 36 => some cs
  | 38 => betweenBraces cs
  | 45 => afterUrn cs
  | _ => none

/-- The accepted spellings, told apart by their length in bytes. -/
def read? (cs : List Char) : Option Uuid :=
  if byteCount cs = 32 then ofDigits cs else groupedPart? cs >>= grouped

/-- Walk over a spelling that was refused: the first character that is neither a digit nor a
hyphen, else the byte positions of the hyphens. -/
def hyphens : Nat → List Char → List Nat → Except Fault (List Nat)
  | _, [], acc => .ok acc.reverse
  | i, c :: cs, acc =>
    if c = '-' then hyphens (i + 1) cs (i :: acc)
    else if isHexDigit c then hyphens (i + 1) cs acc
    else .error (.character c i)

/-- The byte position, from the start of the digits, where each of the five groups starts. -/
def groupStarts : List Nat := [0, 9, 14, 19, 24]

/-- The first group that is not ended by a hyphen at its place; the last group takes what is left
of the whole text. -/
def badGroup (total : Nat) : Nat → List Nat → List Nat → List Nat → Fault
  | g, s :: next :: starts, e :: expected, h :: hs =>
    if h + 1 = next then badGroup total (g + 1) (next :: starts) expected hs
    else .groupLength g e (h - s)
  | g, s :: _, e :: _, _ => .groupLength g e (total - s)
  | g, _, _, _ => .groupLength g 0 total

/-- The length of the longest spelling. -/
def longest : Nat := 45

/-- Where the digits of a refused text should stand, how many bytes of the text come before them as
positions are counted, and whether they may stand without hyphens. Positions are counted from the
first group in a text that is wrapped and as long as it should be. -/
def digitsPart (cs : List Char) : List Char × Nat × Bool :=
  match groupedPart? cs with
  | some body => (body, 0, false)
  | none =>
    match betweenBraces cs with
    | some body => (body, 1, false)
    | none =>
      match afterUrn cs with
      | some body => (body, 9, false)
      | none => (cs, 0, true)

/-- Why a text is no spelling of an identifier. -/
def fault (cs : List Char) : Fault :=
  let (body, offset, plain) := digitsPart cs
  if longest < byteCount cs then .length (byteCount cs)
  else match hyphens 0 body [] with
  | .error (.character c i) => .character c (i + offset)
  | .error f => f
  | .ok hs =>
    if hs.isEmpty ∧ plain then .length (byteCount cs)
    else if hs.length ≠ 4 then .groupCount (hs.length + 1)
    else badGroup (byteCount cs) 0 groupStarts groups hs

def parse (s : String) : Except Fault Uuid :=
  match read? s.toList with
  | some u => .ok u
  | none => .error (fault s.toList)

end Uuid
end EventLineage
