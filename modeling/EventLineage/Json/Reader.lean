import EventLineage.Json.Numeral

/-! # Reading JSON texts

A reader takes the unread part of a text and gives a value and what is then unread, or stops. Lists
and objects may stand within each other as often as `levels` says; values that are passed over may
be of any depth. -/
namespace EventLineage.Json
open Text

def isGap (c : Char) : Bool := c == ' ' || c == '\n' || c == '\t' || c == '\r'

def skipGaps (cs : List Char) : List Char := cs.dropWhile isGap

/-- The letters that are left of a word. -/
def word : List Char → List Char → Except Stop (List Char)
  | [], cs => .ok cs
  | _ :: _, [] => .error (.here .endInValue [])
  | w :: ws, c :: cs => if c = w then word ws cs else .error (.next .wordExpected (c :: cs))

/-! ## Texts -/

/-- Four hexadecimal digits. -/
def fourDigits : Reading Nat
  | a :: b :: c :: d :: rest =>
    match [a, b, c, d].mapM hexValue with
    | some ds => .ok (valueOf 16 ds, rest)
    | none => .error ⟨.badEscape, some 4, a :: b :: c :: d :: rest⟩
  | rest =>
    if rest.foldl (fun n c => n + c.utf8Size) 0 < 4 then .error (.here .endInText [])
    else .error ⟨.badEscape, some 4, rest⟩

def isHighSurrogate (n : Nat) : Bool := 0xD800 ≤ n && n ≤ 0xDBFF

def isLowSurrogate (n : Nat) : Bool := 0xDC00 ≤ n && n ≤ 0xDFFF

/-- The second half of a pair, from behind the first one. -/
def lowSurrogate (high : Nat) : Reading Char
  | [] => .error (.here .endInText [])
  | '\\' :: [] => .error (.here .endInText [])
  | '\\' :: 'u' :: cs => do
    let (low, cs) ← fourDigits cs
    if isLowSurrogate low then
      .ok (Char.ofNat (0x10000 + (high - 0xD800) * 0x400 + (low - 0xDC00)), cs)
    else .error (.here .loneSurrogate cs)
  | '\\' :: cs => .error (.next .unfinishedSurrogate cs)
  | cs => .error (.next .unfinishedSurrogate cs)

/-- A character given by a number, from behind the letter. -/
def numberedChar : Reading Char := fun cs => do
  let (n, cs) ← fourDigits cs
  if isLowSurrogate n then .error (.here .loneSurrogate cs)
  else if isHighSurrogate n then lowSurrogate n cs
  else .ok (Char.ofNat n, cs)

/-- The characters that a letter after a backslash stands for. -/
def letterEscape? : Char → Option Char
  | '"' => some '"'
  | '\\' => some '\\'
  | '/' => some '/'
  | 'b' => some '\x08'
  | 'f' => some '\x0c'
  | 'n' => some '\n'
  | 'r' => some '\r'
  | 't' => some '\t'
  | _ => none

/-- An escaped character, from behind the backslash. -/
def escapedChar : Reading Char
  | [] => .error (.here .endInText [])
  | 'u' :: cs => numberedChar cs
  | c :: cs =>
    match letterEscape? c with
    | some d => .ok (d, cs)
    | none => .error (.next .badEscape (c :: cs))

/-- A text, from behind its first quote; the characters read so far are in reverse. -/
def textTail : Nat → List Char → Reading String
  | 0, _, cs => .error (.here .endInText cs)
  | _ + 1, _, [] => .error (.here .endInText [])
  | fuel + 1, acc, c :: cs =>
    if c = '"' then .ok (String.ofList acc.reverse, cs)
    else if c = '\\' then do
      let (d, cs) ← escapedChar cs
      textTail fuel (d :: acc) cs
    else if c < ' ' then .error (.next .controlCharacter (c :: cs))
    else textTail fuel (c :: acc) cs

def readText : Reading String := fun cs => textTail (cs.length + 1) [] cs

/-- Pass over an escaped character, from behind the backslash. -/
def skipEscaped : List Char → Except Stop (List Char)
  | [] => .error (.here .endInText [])
  | 'u' :: cs => (fourDigits cs).map (·.2)
  | c :: cs => if (letterEscape? c).isSome then .ok cs else .error (.next .badEscape (c :: cs))

def skipTextTail : Nat → List Char → Except Stop (List Char)
  | 0, cs => .error (.here .endInText cs)
  | _ + 1, [] => .error (.here .endInText [])
  | fuel + 1, c :: cs =>
    if c = '"' then .ok cs
    else if c = '\\' then skipEscaped cs >>= skipTextTail fuel
    else if c < ' ' then .error (.here .controlCharacter (c :: cs))
    else skipTextTail fuel cs

def skipText (cs : List Char) : Except Stop (List Char) := skipTextTail (cs.length + 1) cs

/-! ## Lists and objects -/

/-- Whether one more item stands in a list; if so, it is what is unread then, else the bracket
is. -/
def anotherItem (first : Bool) : Reading Bool := fun cs =>
  match skipGaps cs with
  | [] => .error (.next .endInList [])
  | c :: rest =>
    if c = ']' then .ok (false, c :: rest)
    else if c = ',' ∧ ¬first then
      match skipGaps rest with
      | [] => .error (.next .endInValue [])
      | d :: rest =>
        if d = ']' then .error (.next .trailingComma (d :: rest)) else .ok (true, d :: rest)
    else if first then .ok (true, c :: rest)
    else .error (.next .listCommaExpected (c :: rest))

/-- Whether one more member stands in an object; if so, what is unread then is behind the quote of
its key, else the brace is. -/
def anotherKey (first : Bool) : Reading Bool := fun cs =>
  match skipGaps cs with
  | [] => .error (.next .endInObject [])
  | c :: rest =>
    if c = '}' then .ok (false, c :: rest)
    else if c = ',' ∧ ¬first then
      match skipGaps rest with
      | [] => .error (.next .endInValue [])
      | d :: rest =>
        if d = '"' then .ok (true, rest)
        else if d = '}' then .error (.next .trailingComma (d :: rest))
        else .error (.next .keyNotText (d :: rest))
    else if first then
      if c = '"' then .ok (true, rest) else .error (.next .keyNotText (c :: rest))
    else .error (.next .objectCommaExpected (c :: rest))

def colon (cs : List Char) : Except Stop (List Char) :=
  match skipGaps cs with
  | [] => .error (.next .endInObject [])
  | c :: rest => if c = ':' then .ok rest else .error (.next .colonExpected (c :: rest))

def endOfList (cs : List Char) : Except Stop (List Char) :=
  match skipGaps cs with
  | [] => .error (.next .endInList [])
  | c :: rest =>
    if c = ']' then .ok rest
    else if c = ',' then
      match skipGaps rest with
      | d :: rest =>
        if d = ']' then .error (.next .trailingComma (d :: rest))
        else .error (.next .trailingCharacters (d :: rest))
      | [] => .error (.next .trailingCharacters [])
    else .error (.next .trailingCharacters (c :: rest))

def endOfObject (cs : List Char) : Except Stop (List Char) :=
  match skipGaps cs with
  | [] => .error (.next .endInObject [])
  | c :: rest =>
    if c = '}' then .ok rest
    else if c = ',' then .error (.next .trailingComma (c :: rest))
    else .error (.next .trailingCharacters (c :: rest))

/-- What is unread once the end of a list has been looked for. -/
def pastList (cs : List Char) : List Char :=
  match skipGaps cs with
  | ']' :: rest => rest
  | ',' :: rest => skipGaps rest
  | cs => cs

/-- What is unread once the end of an object has been looked for. -/
def pastObject (cs : List Char) : List Char :=
  match skipGaps cs with
  | '}' :: rest => rest
  | cs => cs

/-- Read what stands in a list, then its end; a complaint without a place is placed there. -/
def inList (inner : Reading α) : Reading α := fun cs =>
  match inner cs with
  | .ok (a, cs) => (endOfList cs).map fun cs => (a, cs)
  | .error s => .error (s.placedAt (pastList s.unread))

/-- Read what stands in an object, then its end; a complaint without a place is placed there. -/
def inObject (inner : Reading α) : Reading α := fun cs =>
  match inner cs with
  | .ok (a, cs) => (endOfObject cs).map fun cs => (a, cs)
  | .error s => .error (s.placedAt (pastObject s.unread))

/-- The items of a list up to its bracket; those read so far are in reverse. -/
def items (item : Reading α) : Nat → Bool → List α → Reading (List α)
  | 0, _, _, cs => .error (.here .endInList cs)
  | fuel + 1, first, acc, cs => do
    let (more, cs) ← anotherItem first cs
    if more then
      let (a, cs) ← item cs
      items item fuel false (a :: acc) cs
    else .ok (acc.reverse, cs)

/-- The members of an object up to its brace; those read so far are in reverse. -/
def members (item : Reading α) : Nat → Bool → List (String × α) → Reading (List (String × α))
  | 0, _, _, cs => .error (.here .endInObject cs)
  | fuel + 1, first, acc, cs => do
    let (more, cs) ← anotherKey first cs
    if more then
      let (k, cs) ← readText cs
      let cs ← colon cs
      let (a, cs) ← item cs
      members item fuel false ((k, a) :: acc) cs
    else .ok (acc.reverse, cs)

/-! ## Values -/

/-- A value whose lists and objects hold values read by `inner`, if they may hold any. -/
def valueOver (inner : Option (Reading Json)) : Reading Json := fun cs =>
  match skipGaps cs with
  | [] => .error (.next .endInValue [])
  | 'n' :: rest => (word "ull".toList rest).map fun rest => (.null, rest)
  | 't' :: rest => (word "rue".toList rest).map fun rest => (.bool true, rest)
  | 'f' :: rest => (word "alse".toList rest).map fun rest => (.bool false, rest)
  | '"' :: rest => (readText rest).map fun (s, rest) => (.text s, rest)
  | '-' :: rest => (numeral true rest).map fun (n, rest) => (.number n, rest)
  | '[' :: rest =>
    match inner with
    | some inner =>
      (inList (items inner (rest.length + 1) true []) rest).map
        fun (vs, rest) => (.list vs, rest)
    | none => .error (.next .tooDeep ('[' :: rest))
  | '{' :: rest =>
    match inner with
    | some inner =>
      (inObject (members inner (rest.length + 1) true []) rest).map
        fun (ms, rest) => (.object ms, rest)
    | none => .error (.next .tooDeep ('{' :: rest))
  | c :: rest =>
    if isDigit c then (numeral false (c :: rest)).map fun (n, rest) => (.number n, rest)
    else .error (.next .valueExpected (c :: rest))

/-- A value in which lists and objects stand within each other at most `levels` times. -/
def value : Nat → Reading Json
  | 0 => valueOver none
  | levels + 1 => valueOver (some (value levels))

/-! ## Values that are passed over -/

inductive Bracket where
  | list
  | object
  deriving Repr, DecidableEq

/-- What comes next while values are passed over: a value, or what follows one, where a comma may
stand unless nothing precedes it. -/
inductive Turn where
  | value
  | rest (comma : Bool)
  deriving Repr, DecidableEq

/-- The key and colon in front of a member's value. -/
def skipKey (cs : List Char) : Except Stop (List Char) :=
  match skipGaps cs with
  | [] => .error (.next .endInObject [])
  | c :: rest =>
    if c = '"' then skipText rest >>= colon else .error (.next .keyNotText (c :: rest))

def beforeItem (b : Bracket) (cs : List Char) : Except Stop (List Char) :=
  match b with
  | .list => .ok cs
  | .object => skipKey cs

/-- Pass over a value that is neither list nor object, or over the bracket that opens one. -/
def skipStart (cs : List Char) : Except Stop (Option Bracket × List Char) :=
  match skipGaps cs with
  | [] => .error (.next .endInValue [])
  | 'n' :: rest => (word "ull".toList rest).map fun rest => (none, rest)
  | 't' :: rest => (word "rue".toList rest).map fun rest => (none, rest)
  | 'f' :: rest => (word "alse".toList rest).map fun rest => (none, rest)
  | '"' :: rest => (skipText rest).map fun rest => (none, rest)
  | '-' :: rest => (skipNumeral rest).map fun rest => (none, rest)
  | '[' :: rest => .ok (some .list, rest)
  | '{' :: rest => .ok (some .object, rest)
  | c :: rest =>
    if isDigit c then (skipNumeral (c :: rest)).map fun rest => (none, rest)
    else .error (.next .valueExpected (c :: rest))

def endsBracket : Bracket → Char → Bool
  | .list, c => c == ']'
  | .object, c => c == '}'

def skipLoop : Nat → Turn → List Bracket → List Char → Except Stop (List Char)
  | 0, _, _, cs => .error (.here .endInValue cs)
  | fuel + 1, .value, enclosing, cs => do
    let (opened, cs) ← skipStart cs
    match opened with
    | some b => skipLoop fuel (.rest false) (b :: enclosing) cs
    | none => skipLoop fuel (.rest true) enclosing cs
  | _ + 1, .rest _, [], cs => .ok cs
  | fuel + 1, .rest comma, b :: enclosing, cs =>
    match skipGaps cs with
    | [] => .error (.next (match b with | .list => .endInList | .object => .endInObject) [])
    | c :: rest =>
      if c = ',' ∧ comma then do
        let cs ← beforeItem b rest
        skipLoop fuel .value (b :: enclosing) cs
      else if endsBracket b c then skipLoop fuel (.rest true) enclosing rest
      else if comma then
        .error (.next (match b with | .list => .listCommaExpected | .object => .objectCommaExpected)
          (c :: rest))
      else do
        let cs ← beforeItem b (c :: rest)
        skipLoop fuel .value (b :: enclosing) cs

/-- Pass over a value of any depth. -/
def skipValue (cs : List Char) : Except Stop (List Char) :=
  skipLoop (2 * cs.length + 2) .value [] cs

/-- Nothing but gaps may follow the value that a text holds. -/
def endOfText (cs : List Char) : Except Stop Unit :=
  match skipGaps cs with
  | [] => .ok ()
  | c :: rest => .error (.next .trailingCharacters (c :: rest))

/-- How often lists and objects may stand within each other in a text. -/
def allowedLevels : Nat := 127

/-- Read a whole text with a reader. -/
def readWhole (reader : Nat → Reading α) (s : String) : Except Complaint α :=
  let cs := s.toList
  match reader allowedLevels cs with
  | .error stop => .error (stop.complaint cs)
  | .ok (a, rest) =>
    match endOfText rest with
    | .error stop => .error (stop.complaint cs)
    | .ok () => .ok a

def parse (s : String) : Except Complaint Json := readWhole value s

end EventLineage.Json
