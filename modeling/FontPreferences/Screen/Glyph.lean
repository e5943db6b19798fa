import FontPreferences.Screen.Style
import FontPreferences.Text.Basic
import FontPreferences.Text.Grapheme
import FontPreferences.Text.Width

/-
Glyphs, and breaking lines of them to a width.

* `truncate` keeps what fits of a line;
* `wrap` breaks a line at white space where it can, and inside a word that is longer than a line.
  White space at a break stays at the end of the line as far as it fits.
-/
namespace FontPreferences
namespace Screen

/-- A user-perceived character in a style. -/
structure Glyph where
  symbol : List Char
  width : Nat
  style : Style
deriving DecidableEq, Repr

/-- The glyphs of text in one style.  Ends of lines have none. -/
def Span.glyphs (s : Span) : List Glyph :=
  ((Text.graphemes s.text).filter (· ≠ ['\n'])).map fun g => ⟨g, Text.width g, s.style⟩

/-- The number of cells that text takes as a whole; a ligature of two glyphs may take one. -/
def Span.width (s : Span) : Nat :=
  Text.width s.text.toList

/-- The glyphs of a line. -/
def Line.glyphs (l : Line) : List Glyph :=
  l.flatMap Span.glyphs

/-- The number of cells that glyphs take. -/
def glyphsWidth (gs : List Glyph) : Nat :=
  gs.foldr (fun g n => g.width + n) 0

/-- The first glyphs of a line, as far as they fit beside `used` cells.  A glyph wider than a whole
line is left out. -/
def truncateFrom (limit used : Nat) : List Glyph → List Glyph
  | [] => []
  | g :: rest =>
    if limit < g.width then truncateFrom limit used rest
    else if limit < used + g.width then []
    else g :: truncateFrom limit (used + g.width) rest

/-- The part of a line that fits in `limit` cells. -/
def truncate (limit : Nat) (gs : List Glyph) : List Glyph :=
  truncateFrom limit 0 gs

/-- Whether a line may be broken at a glyph. -/
def Glyph.isSpace (g : Glyph) : Bool :=
  g.symbol == ['\u200b'] || (g.symbol.all Text.isBlank && g.symbol != ['\u00a0'])

/-- A line being wrapped: the finished lines, the line being filled, and the white space and the word
that follow it. -/
structure Wrapping where
  finished : List (List Glyph)
  line : List Glyph
  spaces : List Glyph
  word : List Glyph
  /-- Whether the last glyph taken belongs to a word. -/
  inWord : Bool
deriving Repr

namespace Wrapping

/-- Nothing taken yet. -/
def start : Wrapping :=
  ⟨[], [], [], [], false⟩

/-- Moves the white space and the word into the line. -/
def settle (w : Wrapping) : Wrapping :=
  { w with line := w.line ++ w.spaces ++ w.word, spaces := [], word := [] }

/-- Drops white space that fits in `room` cells. -/
def dropSpaces (room : Nat) : List Glyph → List Glyph
  | [] => []
  | g :: rest => if room < g.width then g :: rest else dropSpaces (room - g.width) rest

/-- Finishes the line, and drops the white space that would still fit in it. -/
def finish (limit : Nat) (w : Wrapping) : Wrapping :=
  { w with
    finished := w.finished ++ [w.line]
    line := []
    spaces := dropSpaces (limit - glyphsWidth w.line) w.spaces }

/-- Adds a glyph to the white space or to the word. -/
def push (w : Wrapping) (g : Glyph) : Wrapping :=
  if g.isSpace then { w with spaces := w.spaces ++ [g], inWord := false }
  else { w with word := w.word ++ [g], inWord := true }

/-- Takes a glyph. -/
def take (limit : Nat) (w : Wrapping) (g : Glyph) : Wrapping :=
  if limit < g.width then w
  else
    let wordEnds := w.inWord && g.isSpace
    let overflows := w.line.isEmpty
      && limit < glyphsWidth w.word + glyphsWidth w.spaces + g.width
    let w := if wordEnds || overflows then w.settle else w
    let full := limit ≤ glyphsWidth w.line
      || (0 < g.width && limit ≤ glyphsWidth w.line + glyphsWidth w.spaces + glyphsWidth w.word)
    if full then
      let w := w.finish limit
      if g.isSpace && w.spaces.isEmpty then w else w.push g
    else w.push g

/-- The lines, once every glyph is taken.  White space alone comes after an empty line. -/
def lines (w : Wrapping) : List (List Glyph) :=
  let gap := if w.line.isEmpty && w.word.isEmpty && !w.spaces.isEmpty then [[]] else []
  let last := w.line ++ w.spaces ++ w.word
  let all := w.finished ++ gap ++ (if last.isEmpty then [] else [last])
  if all.isEmpty then [[]] else all

end Wrapping

/-- Breaks a line to at most `limit` cells. -/
def wrap (limit : Nat) (gs : List Glyph) : List (List Glyph) :=
  (gs.foldl (Wrapping.take limit) .start).lines

end Screen
end FontPreferences
