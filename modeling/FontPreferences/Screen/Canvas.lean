import FontPreferences.Screen.Glyph
import FontPreferences.Screen.Layout

/-
The canvas that the screen is drawn on: rows of cells.

Drawing outside the canvas has no effect.  `rows` is what is seen: the second cell of a double-width
character is blank, whatever was drawn on it.
-/
namespace FontPreferences
namespace Screen

/-- One cell of the screen. -/
structure Cell where
  symbol : List Char
  color : Color
  bold : Bool
  italic : Bool
  reversed : Bool
deriving DecidableEq, Repr

namespace Cell

/-- A cell with nothing on it. -/
def blank : Cell :=
  ⟨[' '], .reset, false, false, false⟩

/-- Lays a style over the cell. -/
def restyle (c : Cell) (s : Style) : Cell :=
  { c with
    color := s.color.getD c.color
    bold := c.bold || s.bold
    italic := c.italic || s.italic
    reversed := c.reversed || s.reversed }

/-- Puts a symbol on the cell and lays a style over it. -/
def write (c : Cell) (symbol : List Char) (s : Style) : Cell :=
  { c with symbol := symbol }.restyle s

/-- Adds to the symbol on the cell and lays a style over it. -/
def append (c : Cell) (symbol : List Char) (s : Style) : Cell :=
  c.write (c.symbol ++ symbol) s

/-- Whether two cells look alike but for their symbols. -/
def sameStyle (a b : Cell) : Bool :=
  a.color == b.color && a.bold == b.bold && a.italic == b.italic && a.reversed == b.reversed

end Cell

/-- Rows of cells, from the top. -/
structure Canvas where
  width : Nat
  cells : Array (Array Cell)
deriving Repr

namespace Canvas

/-- A canvas with nothing on it. -/
def blank (width height : Nat) : Canvas :=
  ⟨width, Array.replicate height (Array.replicate width Cell.blank)⟩

/-- Changes one cell. -/
def modify (c : Canvas) (x y : Nat) (f : Cell → Cell) : Canvas :=
  { c with cells := c.cells.modify y fun row => row.modify x f }

/-- Changes the cells of an area. -/
def modifyArea (c : Canvas) (r : Rect) (f : Cell → Cell) : Canvas :=
  (List.range' r.y r.height).foldl
    (fun c y => (List.range' r.x r.width).foldl (fun c x => c.modify x y f) c) c

/-- Wipes an area. -/
def clear (c : Canvas) (r : Rect) : Canvas :=
  c.modifyArea r fun _ => Cell.blank

/-- Draws a line of glyphs from a cell to the right.  A glyph without width is left out. -/
def drawGlyphs (c : Canvas) (x y : Nat) : List Glyph → Canvas
  | [] => c
  | g :: rest =>
    if g.width = 0 then c.drawGlyphs x y rest
    else (c.modify x y (·.write g.symbol g.style)).drawGlyphs (x + g.width) y rest

/-- Draws lines of glyphs from the top of an area, as far as it has rows. -/
def drawLines (c : Canvas) (r : Rect) (lines : List (List Glyph)) : Canvas :=
  ((lines.take r.height).zipIdx r.y).foldl (fun c line => c.drawGlyphs r.x line.2 line.1) c

/-- Draws lines of text in an area, each cut off at its right edge. -/
def drawTruncated (c : Canvas) (r : Rect) (lines : List Line) : Canvas :=
  if r.isEmpty then c else c.drawLines r (lines.map fun l => truncate r.width l.glyphs)

/-- Draws lines of text in an area, each wrapped to its width. -/
def drawWrapped (c : Canvas) (r : Rect) (lines : List Line) : Canvas :=
  if r.isEmpty then c else c.drawLines r (lines.flatMap fun l => wrap r.width l.glyphs)

/-- Draws the glyphs of a title from column `x` up to the column `limit`, and answers with the column
after them.  A glyph without width joins the one before it; `first` tells that there is none, or that
all glyphs so far share the column. -/
def drawTitleFrom (c : Canvas) (start limit y : Nat) (first : Bool) (x : Nat) :
    List Glyph → Canvas × Nat
  | [] => (c, x)
  | g :: rest =>
    let next := x + g.width
    if limit < next then (c, x)
    else
      let c :=
        if first then c.modify x y (·.write g.symbol g.style)
        else if x = start then c.modify x y (·.append g.symbol g.style)
        else if g.width = 0 then c.modify (x - 1) y (·.append g.symbol g.style)
        else c.modify x y (·.write g.symbol g.style)
      let c := c.modifyArea ⟨x + 1, y, g.width - 1, 1⟩ fun _ => Cell.blank
      drawTitleFrom c start limit y false next rest

/-- Draws pieces of a title one after the other.  A piece without width is left out. -/
def drawTitlePieces (c : Canvas) (limit y x : Nat) : List Span → Canvas
  | [] => c
  | piece :: rest =>
    if piece.width = 0 then c.drawTitlePieces limit y x rest
    else if limit ≤ x then c
    else
      let drawn := (c.drawTitleFrom x limit y true x piece.glyphs).1
      drawn.drawTitlePieces limit y (min limit (x + piece.width)) rest

/-- The lines of a title, which are drawn as one.  A line ends with a line feed, or a carriage return
and a line feed; the last one may also end with the title. -/
def titleLines (s : String) : List String :=
  let trimEnd (l : String) : String :=
    match l.toList.reverse with
    | '\r' :: before => String.ofList before.reverse
    | _ => l
  match (s.splitOn "\n").reverse with
  | [] => []
  | last :: before => (before.map trimEnd).reverse ++ (if last = "" then [] else [last])

/-- Draws a title in the top border of an area. -/
def drawTitle (c : Canvas) (r : Rect) (title : String) (style : Style) : Canvas :=
  let x := r.x + 1
  let room := r.width - 2
  let pieces := (titleLines title).map fun l => (⟨l, .plain⟩ : Span)
  let width := min room (pieces.foldr (fun piece n => piece.width + n) 0)
  if room = 0 ∨ r.height = 0 then c
  else
    let c := c.modifyArea ⟨x, r.y, width, 1⟩ (·.restyle style)
    c.drawTitlePieces (x + width) r.y x pieces

/-- Draws a border along the inside of an area. -/
def drawBorder (c : Canvas) (r : Rect) (style : Style) : Canvas :=
  if r.isEmpty then c
  else
    let right := r.right - 1
    let bottom := r.bottom - 1
    let put (symbol : Char) (cell : Cell) : Cell := cell.write [symbol] style
    let c := c.modifyArea ⟨r.x, r.y, 1, r.height⟩ (put '│')
    let c := c.modifyArea ⟨r.x, r.y, r.width, 1⟩ (put '─')
    let c := c.modifyArea ⟨right, r.y, 1, r.height⟩ (put '│')
    let c := c.modifyArea ⟨r.x, bottom, r.width, 1⟩ (put '─')
    let c := c.modify right bottom (put '┘')
    let c := c.modify right r.y (put '┐')
    let c := c.modify r.x bottom (put '└')
    c.modify r.x r.y (put '┌')

/-- Draws a border with a title in it. -/
def drawBlock (c : Canvas) (r : Rect) (border : Style) (title : String) (titleStyle : Style) :
    Canvas :=
  if r.isEmpty then c else (c.drawBorder r border).drawTitle r title titleStyle

/-- The cells of a row as they are seen.  `hidden` is the number of cells that the character before
still covers. -/
def seen (hidden : Nat) : List Cell → List Cell
  | [] => []
  | cell :: rest =>
    let covered := Text.width cell.symbol - 1
    (if hidden = 0 then cell else Cell.blank) :: seen covered rest

/-- The rows of the screen as they are seen. -/
def rows (c : Canvas) : List (List Cell) :=
  c.cells.toList.map fun row => seen 0 row.toList

end Canvas

/-- The text of a row of cells, without the spaces at its end. -/
def rowText (row : List Cell) : String :=
  String.ofList ((row.flatMap (·.symbol)).reverse.dropWhile (· == ' ')).reverse

/-- Adds a cell in front of stretches of cells that look alike. -/
def addToRuns (cell : Cell) : List (Cell × List Char) → List (Cell × List Char)
  | [] => [(cell, cell.symbol)]
  | (next, text) :: rest =>
    if cell.sameStyle next then (next, cell.symbol ++ text) :: rest
    else (cell, cell.symbol) :: (next, text) :: rest

/-- The stretches of neighbouring cells that look alike: a cell of each, and their text. -/
def rowRuns (row : List Cell) : List (Cell × List Char) :=
  row.foldr addToRuns []

end Screen
end FontPreferences
