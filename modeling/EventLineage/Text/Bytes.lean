/-! # Positions in bytes

The position of a character in a text is the number of bytes that the characters before it take in
UTF-8. Not every number of bytes is a position: most characters take several. -/
namespace EventLineage.Text

/-- The number of bytes that characters take in UTF-8. -/
def byteCount : List Char → Nat
  | [] => 0
  | c :: cs => c.utf8Size + byteCount cs

/-- The characters that take the first bytes, if the bytes end with a character. -/
def takeBytes? : Nat → List Char → Option (List Char)
  | 0, _ => some []
  | _ + 1, [] => none
  | n + 1, c :: cs =>
    if n + 1 < c.utf8Size then none else (takeBytes? (n + 1 - c.utf8Size) cs).map (c :: ·)

/-- The characters behind the first bytes, if the bytes end with a character. -/
def dropBytes? : Nat → List Char → Option (List Char)
  | 0, cs => some cs
  | _ + 1, [] => none
  | n + 1, c :: cs => if n + 1 < c.utf8Size then none else dropBytes? (n + 1 - c.utf8Size) cs

/-- The characters of some bytes from a position on. -/
def cutBytes? (start length : Nat) (cs : List Char) : Option (List Char) :=
  dropBytes? start cs >>= takeBytes? length

end EventLineage.Text
