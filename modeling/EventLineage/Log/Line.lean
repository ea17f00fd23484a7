import EventLineage.Json.Printer
import EventLineage.Log.Filter
import EventLineage.Text.Quoted

/-! # Log lines

A record is printed as a JSON object, or for people to read: time, level, target, message and fields
on a line, with or without colours. What could steer a terminal is spelled out in a message for
people. -/
namespace EventLineage.Log
open Text

inductive Style where
  | json
  | plain
  | coloured
  deriving Repr, DecidableEq

/-! ## JSON -/

def Value.json : Value → Json
  | .text s => .text s
  | .number n => .number ((Number.ofNat? n).getD (.natural 0))
  | .flag b => .bool b

def Record.json (time : String) (r : Record) : Json :=
  .object
    [("timestamp", .text time), ("level", .text r.level.name),
     ("fields", .object (("message", .text r.message) :: r.fields.map fun p => (p.1, p.2.json)))]

/-! ## For people -/

/-- Spell out a character that could steer a terminal. -/
def tamed (c : Char) : List Char :=
  if c = '\x1b' ∨ c = '\x07' ∨ c = '\x08' ∨ c = '\x0c' ∨ c = '\x7f' then
    "\\x".toList ++ padTo 2 (hexadecimal c.toNat)
  else if '\x80' ≤ c ∧ c ≤ '\u009f' then escapeCode c
  else [c]

def tame (s : String) : String := String.ofList (s.toList.flatMap tamed)

/-- A text painted by the given code, if colours are wanted. -/
def painted (colours : Bool) (code : Nat) (s : String) : String :=
  if colours then s!"\x1b[{code}m" ++ s ++ "\x1b[0m" else s

def dim : Nat := 2

def slanted : Nat := 3

def Level.colour : Level → Nat
  | .trace => 35
  | .debug => 34
  | .info => 32
  | .warn => 33
  | .error => 31

def Level.column (l : Level) : String :=
  String.ofList (List.replicate (5 - l.name.length) ' ') ++ l.name

def Value.shown : Value → String
  | .text s => quoted s
  | .number n => s!"{n}"
  | .flag b => s!"{b}"

def fieldShown (colours : Bool) (field : String × Value) : String :=
  " " ++ painted colours slanted field.1 ++ painted colours dim "=" ++ field.2.shown

def Record.shown (colours : Bool) (time : String) (r : Record) : String :=
  painted colours dim time ++ " " ++ painted colours r.level.colour r.level.column ++ " " ++
    painted colours dim r.target ++ painted colours dim ":" ++ " " ++ tame r.message ++
    String.join (r.fields.map (fieldShown colours))

def Record.line (style : Style) (time : String) (r : Record) : String :=
  match style with
  | .json => (r.json time).render
  | .plain => r.shown false time
  | .coloured => r.shown true time

/-- What is printed of some records: nothing unless a style has been chosen and there is a filter.
The first choice stays. -/
def printed (styles : List Style) (filter : Option Filter) (time : String) (records : List Record) :
    List String :=
  match styles, filter with
  | style :: _, some f => (records.filter f.allows).map (Record.line style time)
  | _, _ => []

/-- The lines of a printed text; a carriage return at the end of a line belongs to its end. -/
def lines (s : String) : List String :=
  (pieces '\n' s.toList).map fun line =>
    String.ofList (if line.getLast? = some '\r' then line.dropLast else line)

end EventLineage.Log
