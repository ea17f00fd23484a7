import EventLineage.Json.Value
import EventLineage.Number.Shortest
import EventLineage.Text.Digits

/-! # The text of a JSON value

There are no blanks between tokens. In texts a quote, a backslash and the controls below the space
are escaped, five of these by a letter and the others by four hexadecimal digits. -/
namespace EventLineage
open Text

namespace Number

def spelling : Number → List Char
  | .natural n => decimal n.val
  | .negative n => '-' :: decimal (n.val + 1)
  | .float x => x.spelling

end Number

namespace Json

def escaped (c : Char) : List Char :=
  if c = '"' then ['\\', '"']
  else if c = '\\' then ['\\', '\\']
  else if c = '\x08' then ['\\', 'b']
  else if c = '\t' then ['\\', 't']
  else if c = '\n' then ['\\', 'n']
  else if c = '\x0c' then ['\\', 'f']
  else if c = '\r' then ['\\', 'r']
  else if c < ' ' then ['\\', 'u', '0', '0'] ++ padTo 2 (hexadecimal c.toNat)
  else [c]

def quote (s : String) : List Char := '"' :: s.toList.flatMap escaped ++ ['"']

mutual

def spelling : Json → List Char
  | .null => "null".toList
  | .bool true => "true".toList
  | .bool false => "false".toList
  | .number n => n.spelling
  | .text s => quote s
  | .list [] => ['[', ']']
  | .list (v :: rest) => '[' :: spelling v ++ itemsSpelling rest
  | .object [] => ['{', '}']
  | .object ((k, v) :: rest) => '{' :: quote k ++ ':' :: spelling v ++ membersSpelling rest

/-- Further items, and the end of the list. -/
def itemsSpelling : List Json → List Char
  | [] => [']']
  | v :: rest => ',' :: spelling v ++ itemsSpelling rest

/-- Further members, and the end of the object. -/
def membersSpelling : List (String × Json) → List Char
  | [] => ['}']
  | (k, v) :: rest => ',' :: quote k ++ ':' :: spelling v ++ membersSpelling rest

end

def render (v : Json) : String := String.ofList v.spelling

mutual

/-- How deep lists and objects stand within each other. -/
def nesting : Json → Nat
  | .list items => itemsNesting items + 1
  | .object members => membersNesting members + 1
  | _ => 0

def itemsNesting : List Json → Nat
  | [] => 0
  | v :: rest => max (nesting v) (itemsNesting rest)

def membersNesting : List (String × Json) → Nat
  | [] => 0
  | (_, v) :: rest => max (nesting v) (membersNesting rest)

end

end Json
end EventLineage
