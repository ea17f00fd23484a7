import EventLineage.Text.Ranges

/-! # Blank characters and texts

A character is blank when it has the Unicode property `White_Space`. Zero-width characters
do not have it, so a text of those alone is not blank. -/
namespace EventLineage.Text

def blankRanges : List (Nat × Nat) :=
  [(0x9, 0xD), (0x20, 0x20), (0x85, 0x85), (0xA0, 0xA0), (0x1680, 0x1680), (0x2000, 0x200A),
   (0x2028, 0x2029), (0x202F, 0x202F), (0x205F, 0x205F), (0x3000, 0x3000)]

def isBlank (c : Char) : Bool := inRanges blankRanges c

/-- A text is blank when it holds nothing but blank characters; the empty text is blank. -/
def isBlankText (s : String) : Bool := s.toList.all isBlank

def trimStart (cs : List Char) : List Char := cs.dropWhile isBlank

/-- A text without the blank characters at its two ends. -/
def trim (cs : List Char) : List Char := (trimStart (trimStart cs).reverse).reverse

theorem isBlankText_eq_false_iff {s : String} :
    isBlankText s = false ↔ ∃ c ∈ s.toList, isBlank c = false := by
  simp [isBlankText]

end EventLineage.Text
