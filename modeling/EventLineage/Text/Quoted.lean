import EventLineage.Text.Digits
import EventLineage.Text.Printable

/-! # Quoted texts for diagnostics

A text is put between double quotes; a quote, a backslash, and what cannot be shown as it is are
escaped, so that the quoted form is one visible line. -/
namespace EventLineage.Text

def escapeCode (c : Char) : List Char :=
  "\\u\x7b".toList ++ hexadecimal c.toNat ++ ['}']

def quotedChar (c : Char) : List Char :=
  if c = '\x00' then ['\\', '0']
  else if c = '\t' then ['\\', 't']
  else if c = '\r' then ['\\', 'r']
  else if c = '\n' then ['\\', 'n']
  else if c = '\\' then ['\\', '\\']
  else if c = '"' then ['\\', '"']
  else if isPrintable c then [c]
  else escapeCode c

def quoted (s : String) : String :=
  String.ofList ('"' :: s.toList.flatMap quotedChar ++ ['"'])

end EventLineage.Text
