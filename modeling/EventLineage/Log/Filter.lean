import EventLineage.Log.Pattern
import EventLineage.Log.Record
import EventLineage.Text.Bytes
import EventLineage.Text.Digits
import EventLineage.Text.Pieces

/-! # Log filters

A filter is a list of directives with commas between them. A directive is a level, or a target, or a
target and a level with an equals sign between them. Behind the target brackets may name a span and,
in braces, a field with or without the value that it must have.

For a record the first directive in the order of precedence counts that covers it. Directives for
spans and for values cover no record, because records are written outside of all spans. -/
namespace EventLineage.Log
open Text

/-- Why the text of a filter gives none. -/
inductive FilterFault where
  | unreadable
  /-- A part of a directive would begin or end within a character. -/
  | splitCharacter
  deriving Repr, DecidableEq

/-- What a directive asks of a field: that it is there, or that it has a certain value. -/
structure FieldTest where
  name : List Char
  value : Option (List Char)
  deriving Repr, DecidableEq

namespace FieldTest

/-- A name, or a name and a value with an equals sign between them; what stands behind a further
equals sign is passed over. -/
def ofWord? (cs : List Char) : Option FieldTest :=
  let name := cs.takeWhile (· != '=')
  match cs.drop name.length with
  | [] => if name.isEmpty then none else some ⟨name, none⟩
  | _ :: rest =>
    let value := rest.takeWhile (· != '=')
    if Pattern.isValue value then some ⟨name, some value⟩ else none

end FieldTest

/-- How much is let through: nothing, or the records of a level and of those above it. -/
structure Directive where
  target : Option (List Char) := none
  span : Option (List Char) := none
  field : Option FieldTest := none
  /-- The greatest rank of a level that is let through. -/
  most : Nat
  deriving Repr, DecidableEq

/-- The directives, of which no two differ in nothing but how much they let through. -/
abbrev Filter := List Directive

/-- The ranks that have a name; zero lets nothing through. -/
def rankNames : List (String × Nat) :=
  [("off", 0), ("error", 1), ("warn", 2), ("info", 3), ("debug", 4), ("trace", 5)]

def everything : Nat := 5

/-- A number that is a rank, with a plus sign in front or without. -/
def numberRank? (cs : List Char) : Option Nat :=
  (natural? (withoutPlus cs)).filter (· ≤ everything)

/-- A rank given as a number or by its name in any case. -/
def rank? (cs : List Char) : Option Nat :=
  match numberRank? cs with
  | some n => some n
  | none => (rankNames.find? fun p => p.1.toList == cs.map Char.toLower).map (·.2)

namespace Directive

def canStart (c : Char) : Bool := c == '-' || c == ':' || c == '_' || isAlphanumeric c

/-- A level, or else a target that lets everything through. -/
def ofWord (cs : List Char) : Directive :=
  match rank? cs with
  | some n => { most := n }
  | none => { target := some cs, most := everything }

/-- Everything is let through where no level is given. -/
def levelRank? (cs : List Char) : Option Nat := if cs.isEmpty then some everything else rank? cs

def orUnreadable : Option α → Except FilterFault α
  | some a => .ok a
  | none => .error .unreadable

/-- The part of an item that has some bytes, from a position on. -/
def cut (item : List Char) (start length : Nat) : Except FilterFault (List Char) :=
  match cutBytes? start length item with
  | some cs => .ok cs
  | none => .error .splitCharacter

/-- The level from a position in an item on. -/
def levelFrom (item : List Char) (start : Nat) : Except FilterFault Nat := do
  let cs ← cut item start (byteCount item - start)
  orUnreadable (levelRank? cs)

/-- The end of a directive `d` from behind its brackets, where the position is given. -/
def afterBrackets (item : List Char) (d : Directive) (place : Nat) :
    List Char → Except FilterFault Directive
  | [] => .ok d
  | '=' :: _ => (levelFrom item (place + 1)).map fun n => { d with most := n }
  | _ => .error .unreadable

/-- A directive with brackets, from behind the first of them, where the position is given. -/
def inBrackets (item : List Char) (target : Option (List Char)) (place : Nat) (cs : List Char) :
    Except FilterFault Directive :=
  let name := cs.takeWhile fun c => c != ']' && c != '{'
  let behind := place + byteCount name + 1
  match cs.drop name.length with
  | [] => .error .unreadable
  | c :: rest => do
    let span ← cut item place (byteCount name)
    if c = ']' then afterBrackets item ⟨target, some span, none, everything⟩ behind rest
    else
      let test := rest.takeWhile (· != '}')
      match rest.drop test.length with
      | [] => .error .unreadable
      | _ :: rest => do
        let field ←
          cut item behind (byteCount test) >>= fun cs => orUnreadable (FieldTest.ofWord? cs)
        match rest with
        | ']' :: rest =>
          afterBrackets item
            ⟨target, if name.isEmpty then none else some span, some field, everything⟩
            (behind + byteCount test + 2) rest
        | _ => .error .unreadable

/-- A directive from what stands between two commas. The parts are told apart without the blanks at
the ends, but cut out with them at the positions found in that way: behind blanks no level can be
read, and names begin too early. -/
def ofItem (item : List Char) : Except FilterFault Directive :=
  let cs := trim item
  match cs with
  | [] => .error .unreadable
  | c :: _ =>
    if ¬canStart c ∧ c ≠ '[' then .error .unreadable
    else
      let name := cs.takeWhile fun c => c != '=' && c != '['
      let place := byteCount name
      match cs.drop name.length with
      | [] => .ok (ofWord item)
      | d :: rest => do
        let target ← cut item 0 place
        if d = '=' then
          (levelFrom item (place + 1)).map fun n => { target := some target, most := n }
        else inBrackets item (if name.isEmpty then none else some target) (place + 1) rest

/-- Whether the directive can be for records outside of spans. -/
def isForRecords (d : Directive) : Bool := d.span.isNone && d.field.all (·.value.isNone)

def covers (d : Directive) (r : Record) : Bool :=
  d.isForRecords && d.target.all (·.isPrefixOf r.target.toList) &&
    d.field.all fun f => r.fieldNames.contains (String.ofList f.name)

/-- How much of a target the directive names. -/
def weight (d : Directive) : Nat :=
  match d.target with
  | none => 0
  | some cs => cs.length + 1

/-- The name of the field that is asked for; a directive without one is below all others. -/
def fieldName (d : Directive) : Option (List Char) := d.field.map (·.name)

/-- The directive for the longer target goes first, then the one that asks for a field, then the one
whose field has the greater name. -/
def precedes (d e : Directive) : Bool :=
  e.weight < d.weight || d.weight == e.weight &&
    match e.fieldName, d.fieldName with
    | none, some _ => true
    | some a, some b => decide (a < b)
    | _, none => false

end Directive

namespace Filter

/-- Of directives that differ in nothing but how much they let through the last one stays. -/
def add (f : Filter) (d : Directive) : Filter :=
  f.filter (fun e => { e with most := d.most } != d) ++ [d]

def parse (s : String) : Except FilterFault Filter :=
  (((pieces ',' s.toList).filter (!·.isEmpty)).mapM Directive.ofItem).map fun ds => ds.foldl add []

/-- The filter that is used when none is set, or one that cannot be read. -/
def standardText : String := "info"

def standard : Filter := [{ most := 3 }]

/-- The filter for a setting; there is none if the setting splits a character, which is no fault
that the standard filter could make up for. -/
def ofSetting : Option String → Option Filter
  | none => some standard
  | some s =>
    match parse s with
    | .ok f => some f
    | .error .unreadable => some standard
    | .error .splitCharacter => none

/-- The directive that counts for a record. -/
def directive? (f : Filter) (r : Record) : Option Directive :=
  (f.filter (·.covers r)).foldl
    (fun best d =>
      match best with
      | none => some d
      | some b => if d.precedes b then some d else some b)
    none

def allows (f : Filter) (r : Record) : Bool := (f.directive? r).any fun d => r.level.rank ≤ d.most

end Filter
end EventLineage.Log
