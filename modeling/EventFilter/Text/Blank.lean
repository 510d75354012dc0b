import EventFilter.Text.Ranges

/-!
# Blank characters

`isBlank` is the Unicode property White_Space: the characters that separate tokens, that are
trimmed from both ends of a text, and that alone make a line blank.
-/

namespace EventFilter.Text

/-- The characters with the property White_Space. -/
def blankRanges : List (Nat × Nat) := [
  (0x09, 0x0D), (0x20, 0x20), (0x85, 0x85), (0xA0, 0xA0), (0x1680, 0x1680), (0x2000, 0x200A),
  (0x2028, 0x2029), (0x202F, 0x202F), (0x205F, 0x205F), (0x3000, 0x3000)]

/-- **A blank character**, as in Unicode's property White_Space. -/
def isBlank (c : Char) : Bool := inRanges blankRanges c.toNat

/-- A text without the blank characters at its two ends. -/
def trim (cs : List Char) : List Char :=
  ((cs.dropWhile isBlank).reverse.dropWhile isBlank).reverse

/-- A text of blank characters only. -/
def isBlankText (cs : List Char) : Bool := cs.all isBlank

end EventFilter.Text
