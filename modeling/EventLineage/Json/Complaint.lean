import EventLineage.Json.Value
import EventLineage.Number.Shortest
import EventLineage.Text.Quoted

/-! # Complaints about JSON that cannot be read

A complaint has a cause and, when it is about a text, a place in it: a line and a column, counted
in bytes. While a text is being read the place is kept as the part that was still unread, together
with the number of bytes by which the place lies behind its start. A complaint made by a check of
a value that was read has no place of its own; it gets one where the next enclosing list or object
ends, or stays without one. -/
namespace EventLineage.Json
open Text

inductive Cause where
  | endInList
  | endInObject
  | endInText
  | endInValue
  | colonExpected
  | listCommaExpected
  | objectCommaExpected
  | wordExpected
  | valueExpected
  | badEscape
  | badNumber
  | numberOutOfRange
  | controlCharacter
  | keyNotText
  | loneSurrogate
  | trailingComma
  | trailingCharacters
  | unfinishedSurrogate
  | tooDeep
  /-- What a check of a value says. -/
  | said (message : String)
  deriving Repr, DecidableEq

def Cause.text : Cause → String
  | .endInList => "EOF while parsing a list"
  | .endInObject => "EOF while parsing an object"
  | .endInText => "EOF while parsing a string"
  | .endInValue => "EOF while parsing a value"
  | .colonExpected => "expected `:`"
  | .listCommaExpected => "expected `,` or `]`"
  | .objectCommaExpected => "expected `,` or `\x7d`"
  | .wordExpected => "expected ident"
  | .valueExpected => "expected value"
  | .badEscape => "invalid escape"
  | .badNumber => "invalid number"
  | .numberOutOfRange => "number out of range"
  | .controlCharacter => "control character (\\u0000-\\u001F) found while parsing a string"
  | .keyNotText => "key must be a string"
  | .loneSurrogate => "lone leading surrogate in hex escape"
  | .trailingComma => "trailing comma"
  | .trailingCharacters => "trailing characters"
  | .unfinishedSurrogate => "unexpected end of hex escape"
  | .tooDeep => "recursion limit exceeded"
  | .said message => message

/-- A complaint as shown: a place is given as line and column. -/
structure Complaint where
  message : String
  place : Option (Nat × Nat) := none
  deriving Repr, DecidableEq

namespace Complaint

def text (c : Complaint) : String :=
  match c.place with
  | some (line, column) => s!"{c.message} at line {line} column {column}"
  | none => c.message

def afterMark? (mark cs : List Char) : Option (List Char) :=
  if mark.isPrefixOf cs then some (cs.drop mark.length) else none

/-- Cut characters in front of the last place where `mark` stands. -/
def splitLast (mark : List Char) : List Char → Option (List Char × List Char)
  | [] => none
  | c :: cs =>
    match splitLast mark cs with
    | some (before, after) => some (c :: before, after)
    | none => (afterMark? mark (c :: cs)).map fun after => ([], after)

/-- A number of at most 64 bits. -/
def smallNumber? (cs : List Char) : Option Nat := (natural? cs).filter (· < UInt64.size)

/-- A complaint worded elsewhere: when its wording ends in a place, that is its place; line 0 means
that there is none. -/
def worded (message : String) : Complaint :=
  let found := do
    let (before, after) ← splitLast " at line ".toList message.toList
    let lineDigits := after.takeWhile isDigit
    let columnDigits ← afterMark? " column ".toList (after.drop lineDigits.length)
    let line ← smallNumber? lineDigits
    let column ← smallNumber? columnDigits
    some (String.ofList before, line, column)
  match found with
  | some (before, line, column) => ⟨before, if line = 0 then none else some (line, column)⟩
  | none => ⟨message, none⟩

end Complaint

/-- The reading of a text has come to a stop. -/
structure Stop where
  cause : Cause
  /-- The bytes between the start of the unread part and the place, if there is a place. -/
  ahead : Option Nat
  unread : List Char
  deriving Repr, DecidableEq

namespace Stop

/-- A complaint placed at the end of what has been read. -/
def here (cause : Cause) (unread : List Char) : Stop := ⟨cause, some 0, unread⟩

/-- A complaint placed behind the next byte. -/
def next (cause : Cause) (unread : List Char) : Stop := ⟨cause, some 1, unread⟩

/-- A complaint without a place. -/
def unplaced (message : String) (unread : List Char) : Stop := ⟨.said message, none, unread⟩

/-- Give a complaint that has no place the end of what has been read. -/
def placedAt (s : Stop) (unread : List Char) : Stop :=
  match s.ahead with
  | some _ => s
  | none => ⟨s.cause, some 0, unread⟩

end Stop

/-- Line and column after one more character. -/
def advance (place : Nat × Nat) (c : Char) : Nat × Nat :=
  if c = '\n' then (place.1 + 1, 0) else (place.1, place.2 + c.utf8Size)

/-- Line and column after some bytes of the characters that follow. -/
def advanceBytes (place : Nat × Nat) : Nat → List Char → Nat × Nat
  | 0, _ => place
  | _ + 1, [] => place
  | n + 1, c :: cs =>
    if n + 1 < c.utf8Size then (place.1, place.2 + (n + 1))
    else advanceBytes (advance place c) (n + 1 - c.utf8Size) cs
  termination_by _ cs => cs.length

def Stop.complaint (whole : List Char) (s : Stop) : Complaint :=
  let read := whole.take (whole.length - s.unread.length)
  let place := read.foldl advance (1, 0)
  ⟨s.cause.text, s.ahead.map fun n => advanceBytes place n s.unread⟩

/-! ## What was met where something else was expected -/

def Number.met : Number → String
  | .natural n => s!"integer `{n.val}`"
  | .negative n => s!"integer `-{n.val + 1}`"
  | .float x => s!"floating point `{String.ofList x.spelling}`"

def met : Json → String
  | .null => "null"
  | .bool b => s!"boolean `{b}`"
  | .number n => Number.met n
  | .text s => "string " ++ quoted s
  | .list _ => "sequence"
  | .object _ => "map"

def wrongType (found expected : String) : String := s!"invalid type: {found}, expected {expected}"

def wrongValue (found expected : String) : String := s!"invalid value: {found}, expected {expected}"

def wrongLength (found : Nat) (expected : String) : String :=
  s!"invalid length {found}, expected {expected}"

/-- Names in backticks, joined so that one of them is asked for. -/
def alternatives : List String → String
  | [] => "there are no variants"
  | [a] => s!"expected `{a}`"
  | [a, b] => s!"expected `{a}` or `{b}`"
  | names => "expected one of " ++ String.intercalate ", " (names.map fun a => s!"`{a}`")

def unknownVariant (found : String) (names : List String) : String :=
  s!"unknown variant `{found}`, " ++ alternatives names

end EventLineage.Json
