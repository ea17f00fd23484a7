import EventLineage.Text.Blank
import EventLineage.Text.Digits
import EventLineage.Text.Letter

/-! # Patterns for the values of fields

A filter may ask that the value of a field match a regular expression. What such values are is of
no use here, as no record is let through by its values; but a text that is no regular expression
makes the filter unreadable. A closing brace cannot stand in the text, so nothing that needs one can
be complete: counted repetitions, and properties and code points in braces.

What would need to know all scripts is refused too: the sets of digits, blanks and word characters,
properties, borders of words, and characters in either case. All of these but properties can be had
where sets hold bytes; there, what could match a part of a character is refused. -/
namespace EventLineage.Log.Pattern
open Text

/-- How the rest of a group is read. -/
structure Mode where
  /-- Blanks and comments may stand between any two parts. -/
  spaced : Bool := false
  /-- Sets hold characters of all scripts, not bytes. -/
  unicode : Bool := true
  /-- Characters match in either case. -/
  anyCase : Bool := false
  deriving Repr, DecidableEq

/-- Pass over blanks and over comments, which end with their line. -/
def skipComments : Bool → List Char → List Char
  | _, [] => []
  | true, c :: cs => skipComments (c != '\n') cs
  | false, c :: cs =>
    if isBlank c then skipComments false cs
    else if c = '#' then skipComments true cs
    else c :: cs

namespace Mode

def skip (m : Mode) (cs : List Char) : List Char := if m.spaced then skipComments false cs else cs

/-- Whether a character may stand for itself. -/
def hasCharacters (m : Mode) : Bool := !(m.unicode && m.anyCase)

end Mode

/-! ## Nesting

Groups, repetitions, choices, sequences and sets hold other parts of a pattern. A pattern in which
they stand within each other too often is refused. -/

/-- How often things may stand within each other. -/
def allowedNesting : Nat := 250

/-- Parts that stand side by side. -/
structure Row where
  size : Nat := 0
  /-- The nesting of the parts but the last. -/
  nesting : Nat := 0
  /-- The nesting of the last part, if it can be repeated. -/
  last : Option Nat := none
  deriving Repr, DecidableEq

namespace Row

def deepest (r : Row) : Nat := max r.nesting (r.last.getD 0)

/-- One part alone is no more than that part. -/
def whole (r : Row) : Nat := if r.size < 2 then r.deepest else r.deepest + 1

/-- A part is added, which can be repeated if its nesting is told. -/
def add (r : Row) (part : Option Nat) : Row := ⟨r.size + 1, r.deepest, part⟩

def repeated? (r : Row) : Option Row := r.last.map fun n => { r with last := some (n + 1) }

end Row

/-- What is read inside of one pair of brackets, or outside of all. -/
structure Level where
  mode : Mode := {}
  /-- The nesting of what stands before the last bar or operator. -/
  before : Option Nat := none
  row : Row := {}
  deriving Repr, DecidableEq

namespace Level

def nesting (l : Level) : Nat :=
  match l.before with
  | none => l.row.whole
  | some n => max n l.row.whole + 1

def add (l : Level) (nesting : Nat) : Level := { l with row := l.row.add (some nesting) }

/-- Begin another branch of a choice. -/
def branch (l : Level) : Level :=
  { l with before := some (max (l.before.getD 0) l.row.whole), row := {} }

/-- Begin the right side of an operator, which has all before it on its left side. -/
def operator (l : Level) : Level := { l with before := some l.nesting, row := {} }

end Level

/-! ## Characters, sets and places -/

/-- What a part of a pattern matches. -/
inductive Part where
  | character (c : Char)
  /-- One character of several. -/
  | set
  /-- No character, but a place between two. -/
  | place
  deriving Repr, DecidableEq

/-- A code point given by so many hexadecimal digits. -/
def codePoint? (m : Mode) : Nat → Nat → List Char → Option (Char × List Char)
  | 0, n, cs => if n.isValidChar then some (Char.ofNat n, cs) else none
  | digits + 1, n, cs =>
    match m.skip cs with
    | [] => none
    | c :: cs => hexValue c >>= fun d => codePoint? m digits (16 * n + d) cs

/-- A code point in two digits is a byte where sets hold bytes. -/
def codePart? (m : Mode) (digits : Nat) (cs : List Char) : Option (Part × List Char) :=
  codePoint? m digits 0 cs >>= fun (c, cs) =>
    if digits = 2 ∧ ¬m.unicode ∧ 0x80 ≤ c.toNat then none else some (.character c, cs)

/-- The letters that stand for characters that are hard to write. -/
def letterPart? : Char → Option Char
  | 'a' => some '\x07'
  | 'f' => some '\x0c'
  | 't' => some '\t'
  | 'n' => some '\n'
  | 'r' => some '\r'
  | 'v' => some '\x0b'
  | _ => none

/-- What follows a backslash. -/
def escaped? (m : Mode) : List Char → Option (Part × List Char)
  | [] => none
  | c :: cs =>
    if c = 'x' then codePart? m 2 cs
    else if c = 'u' then codePart? m 4 cs
    else if c = 'U' then codePart? m 8 cs
    else if c = 'd' ∨ c = 's' ∨ c = 'w' then if m.unicode then none else some (.set, cs)
    else if c = 'A' ∨ c = 'z' then some (.place, cs)
    else if c = 'b' ∨ c = 'B' ∨ c = '<' ∨ c = '>' then if m.unicode then none else some (.place, cs)
    else if c.toNat < 0x80 ∧ ¬c.isAlphanum then some (.character c, cs)
    else (letterPart? c).map fun d => (.character d, cs)

/-- A character, also behind a backslash, or what else a backslash can make of it. -/
def part? (m : Mode) : List Char → Option (Part × List Char)
  | [] => none
  | c :: cs => do
    let (p, cs) ← if c = '\\' then escaped? m cs else some (.character c, cs)
    match p with
    | .character _ => if m.hasCharacters then some (p, cs) else none
    | _ => some (p, cs)

/-! ## Sets in brackets -/

def asciiSets : List String :=
  ["alnum", "alpha", "ascii", "blank", "cntrl", "digit", "graph", "lower", "print", "punct",
   "space", "upper", "word", "xdigit"]

/-- A named set of ASCII characters, from behind its bracket, and whether all others are meant. -/
def asciiSet? : List Char → Option (Bool × List Char)
  | ':' :: cs =>
    let name := cs.takeWhile (· != ':')
    match cs.drop name.length with
    | ':' :: ']' :: rest =>
      let (others, name) := match name with
        | '^' :: name => (true, name)
        | name => (false, name)
      if asciiSets.contains (String.ofList name) then some (others, rest) else none
    | _ => none
  | _ => none

/-- The part of a set that comes next; in a set of bytes each character must be one byte. -/
def member? (m : Mode) (cs : List Char) : Option (Part × List Char) := do
  let (p, cs) ← part? m cs
  match p with
  | .character c => if m.unicode ∨ c.toNat < 0x80 then some (p, cs) else none
  | .set => some (p, cs)
  | .place => none

/-- What follows a hyphen, as far as it tells whether the hyphen makes a range: behind blanks and
behind the mark of a comment, but not behind the comment. -/
def following? (m : Mode) (cs : List Char) : Option Char :=
  if m.spaced then
    match cs.dropWhile isBlank with
    | '#' :: rest => (rest.dropWhile isBlank).head?.or cs.head?
    | rest => rest.head?.or cs.head?
  else cs.head?

/-- A part of a set, or two characters as the ends of a range. -/
def range? (m : Mode) (cs : List Char) : Option (List Char) := do
  let (low, cs) ← member? m cs
  match m.skip cs with
  | '-' :: rest =>
    if following? m rest = some ']' ∨ following? m rest = some '-' then some ('-' :: rest)
    else
      match low, ← member? m (m.skip rest) with
      | .character a, (.character b, cs) => if a ≤ b then some cs else none
      | _, _ => none
  | cs => some cs

/-- Pass over the mark of a complement, which cannot be had of a set of bytes. -/
def openSet? (m : Mode) (cs : List Char) : Option (List Char) :=
  match m.skip cs with
  | '^' :: cs => if m.unicode then some cs else none
  | cs => some cs

/-- Two such characters join the sets on both sides. -/
def isOperator (c : Char) (cs : List Char) : Bool :=
  (c == '&' || c == '-' || c == '~') && cs.head? == some c

/-- Read the rest of a set that stands in others; its nesting and what follows it are given. Hyphens
at the start of a set stand for themselves, and so does a closing bracket that is the first. -/
def setEnd? : Nat → Bool → Level → List Level → List Char → Option (Nat × List Char)
  | 0, _, _, _, _ => none
  | fuel + 1, start, l, outer, cs =>
    match l.mode.skip cs with
    | [] => none
    | c :: rest =>
      if start ∧ (c = '-' ∨ c = ']' ∧ l.row.size = 0) then
        if l.mode.hasCharacters then setEnd? fuel (c = '-') (l.add 0) outer rest else none
      else if c = '[' then
        match asciiSet? rest with
        | some (others, rest) =>
          if l.mode.hasCharacters ∧ (l.mode.unicode ∨ ¬others) then
            setEnd? fuel false (l.add 0) outer rest
          else none
        | none => openSet? l.mode rest >>= setEnd? fuel true { mode := l.mode } (l :: outer)
      else if c = ']' then
        match outer with
        | [] => some (l.nesting + 1, rest)
        | o :: outer => setEnd? fuel false (o.add (l.nesting + 1)) outer rest
      else if isOperator c rest then setEnd? fuel false l.operator outer (rest.drop 1)
      else range? l.mode (c :: rest) >>= setEnd? fuel false (l.add 0) outer

/-- Read a set, from behind its bracket. -/
def set? (m : Mode) (cs : List Char) : Option (Nat × List Char) :=
  openSet? m cs >>= setEnd? (cs.length + 1) true { mode := m } []

/-! ## Groups -/

/-- The reading of a pattern between two of its parts. -/
structure State where
  inner : Level := {}
  /-- The levels around the innermost one. -/
  outer : List Level := []
  /-- The names of groups so far. -/
  names : List (List Char) := []
  deriving Repr, DecidableEq

namespace State

def mode (s : State) : Mode := s.inner.mode

/-- A part is added that can be repeated. -/
def add (s : State) (nesting : Nat) : State := { s with inner := s.inner.add nesting }

/-- Go into a group. -/
def enter (s : State) (m : Mode) : State :=
  { s with inner := { mode := m }, outer := s.inner :: s.outer }

/-- Leave the innermost group. -/
def leave? (s : State) : Option State :=
  match s.outer with
  | [] => none
  | l :: outer => some { s with inner := l.add (s.inner.nesting + 1), outer := outer }

/-- Read the rest of the group in another way; what asks for that is a part of its own. -/
def switch (s : State) (m : Mode) : State :=
  { s with inner := { s.inner with mode := m, row := s.inner.row.add none } }

end State

/-- The mode after some flags, each of which is given at most once, after one hyphen for those that
are taken away. -/
def flagged? : List Char → List Char → Mode → Option Mode
  | seen, [], m => if seen.head? = some '-' then none else some m
  | seen, c :: cs, m =>
    if seen.contains c ∨ ¬"imsUuRx-".toList.contains c then none
    else
      let on := !seen.contains '-'
      flagged? (c :: seen) cs
        (match c with
         | 'x' => { m with spaced := on }
         | 'u' => { m with unicode := on }
         | 'i' => { m with anyCase := on }
         | _ => m)

def isName : List Char → Bool
  | [] => false
  | c :: cs =>
    (c == '_' || isLetter c) && cs.all fun c => isAlphanumeric c || ['_', '.', '[', ']'].contains c

/-- A group with a name, from the start of the name. -/
def named? (s : State) (cs : List Char) : Option (State × List Char) :=
  let name := cs.takeWhile (· != '>')
  match cs.drop name.length with
  | _ :: cs =>
    if isName name ∧ ¬s.names.contains name then
      some ({ s with names := name :: s.names }.enter s.mode, cs)
    else none
  | [] => none

/-- Flags for a group or for what follows in this one. -/
def flags? (s : State) (cs : List Char) : Option (State × List Char) :=
  let flags := cs.takeWhile fun c => c != ':' && c != ')'
  match cs.drop flags.length with
  | ':' :: cs => (flagged? [] flags s.mode).map fun m => (s.enter m, cs)
  | _ :: cs =>
    if flags.isEmpty then none else (flagged? [] flags s.mode).map fun m => (s.switch m, cs)
  | [] => none

/-- What follows an opening parenthesis. -/
def group? (s : State) (cs : List Char) : Option (State × List Char) :=
  match s.mode.skip cs with
  | '?' :: 'P' :: '<' :: cs => named? s cs
  | '?' :: '<' :: cs => named? s cs
  | '?' :: cs => flags? s cs
  | cs => some (s.enter s.mode, cs)

/-! ## Whole patterns -/

/-- Pass over the mark of a repetition that takes as little as it can. -/
def skipLazy : List Char → List Char
  | '?' :: cs => cs
  | cs => cs

/-- Read on from a character that is not passed over. -/
def step? (s : State) (c : Char) (cs : List Char) : Option (State × List Char) :=
  if c = '(' then group? s cs
  else if c = ')' then s.leave?.map fun s => (s, cs)
  else if c = '|' then some ({ s with inner := s.inner.branch }, cs)
  else if c = '[' then (set? s.mode cs).map fun (n, cs) => (s.add n, cs)
  else if c = '?' ∨ c = '*' ∨ c = '+' then
    s.inner.row.repeated?.map fun r => ({ s with inner := { s.inner with row := r } }, skipLazy cs)
  else if c = '{' then none
  else if c = '.' then if s.mode.unicode then some (s.add 0, cs) else none
  else if c = '^' ∨ c = '$' then some (s.add 0, cs)
  else (part? s.mode (c :: cs)).map fun (_, cs) => (s.add 0, cs)

def readsFrom : Nat → State → List Char → Bool
  | 0, _, _ => false
  | fuel + 1, s, cs =>
    match s.mode.skip cs with
    | [] => s.outer.isEmpty && s.inner.nesting ≤ allowedNesting
    | c :: cs =>
      match step? s c cs with
      | some (s, cs) => readsFrom fuel s cs
      | none => false

/-- Whether a text without closing braces is a regular expression. -/
def reads (cs : List Char) : Bool := readsFrom (cs.length + 1) {} cs

/-! ## Values -/

/-- Digits with a point among them or at an end, and an exponent. -/
def isDecimal (cs : List Char) : Bool :=
  let whole := cs.takeWhile isDigit
  let rest := cs.drop whole.length
  let part := if rest.head? = some '.' then (rest.drop 1).takeWhile isDigit else []
  let rest := if rest.head? = some '.' then rest.drop (part.length + 1) else rest
  !(whole.isEmpty && part.isEmpty) &&
    match rest with
    | [] => true
    | e :: digits =>
      let digits :=
        if digits.head? = some '+' ∨ digits.head? = some '-' then digits.drop 1 else digits
      (e == 'e' || e == 'E') && !digits.isEmpty && digits.all isDigit

/-- A number without its sign. -/
def isNumber (cs : List Char) : Bool :=
  isDecimal cs || ["inf", "infinity", "nan"].contains (String.ofList (cs.map Char.toLower))

/-- Whether a text may be asked for as a value: as a number, or as a pattern. Numbers without a plus
sign are patterns too. -/
def isValue : List Char → Bool
  | '+' :: cs => isNumber cs
  | cs => reads cs

end EventLineage.Log.Pattern
