/-
Sets of characters, blanks at the ends of a text, and columns of text.

* `CodeRanges`: a set of characters, given as ranges of code points;
* `isBlank` and `trim`: the Unicode property White_Space;
* `isIgnorable`: the Unicode property Default_Ignorable_Code_Point, of characters that are not shown
  even where no font has them;
* `padRight`, `padLeft`: a text with spaces up to a number of characters.
-/
namespace FontPreferences
namespace Text

/-- A set of code points: the first and the last one of each range. -/
abbrev CodeRanges := List (Nat × Nat)

/-- Whether a character's code point is in one of the ranges. -/
def CodeRanges.contains (ranges : CodeRanges) (c : Char) : Bool :=
  ranges.any fun r => r.1 ≤ c.toNat && c.toNat ≤ r.2

/-! Blanks -/

/-- The code points with the property White_Space. -/
def blankRanges : CodeRanges := [
  (0x9, 0xd), (0x20, 0x20), (0x85, 0x85), (0xa0, 0xa0), (0x1680, 0x1680), (0x2000, 0x200a),
  (0x2028, 0x2029), (0x202f, 0x202f), (0x205f, 0x205f), (0x3000, 0x3000)]

/-- Whether a character is a blank. -/
def isBlank (c : Char) : Bool :=
  blankRanges.contains c

/-- The text without its leading and trailing blanks. -/
def trim (s : String) : String :=
  String.ofList (((s.toList.dropWhile isBlank).reverse.dropWhile isBlank).reverse)

/-! Characters that are not shown -/

/-- The code points of characters that are not shown. -/
def ignorableRanges : CodeRanges := [
  (0xad, 0xad), (0x34f, 0x34f), (0x61c, 0x61c), (0x115f, 0x1160), (0x17b4, 0x17b5),
  (0x180b, 0x180f), (0x200b, 0x200f), (0x202a, 0x202e), (0x2060, 0x206f), (0x3164, 0x3164),
  (0xfe00, 0xfe0f), (0xfeff, 0xfeff), (0xffa0, 0xffa0), (0xfff0, 0xfff8), (0x1bca0, 0x1bca3),
  (0x1d173, 0x1d17a), (0xe0000, 0xe0fff)]

/-- Whether a character is not shown. -/
def isIgnorable (c : Char) : Bool :=
  ignorableRanges.contains c

/-! Columns -/

/-- The text at the left of a column of `n` characters; a longer text is kept whole. -/
def padRight (n : Nat) (s : String) : String :=
  s ++ String.ofList (List.replicate (n - s.length) ' ')

/-- The text at the right of a column of `n` characters; a longer text is kept whole. -/
def padLeft (n : Nat) (s : String) : String :=
  String.ofList (List.replicate (n - s.length) ' ') ++ s

end Text
end FontPreferences
