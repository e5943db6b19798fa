/-
Areas of the screen and how they are divided.
-/
namespace FontPreferences
namespace Screen

/-- A rectangle of cells. -/
structure Rect where
  x : Nat
  y : Nat
  width : Nat
  height : Nat
deriving DecidableEq, Repr

namespace Rect

/-- Whether an area has no cell. -/
def isEmpty (r : Rect) : Bool :=
  r.width == 0 || r.height == 0

/-- The first column to the right of an area. -/
def right (r : Rect) : Nat :=
  r.x + r.width

/-- The first row below an area. -/
def bottom (r : Rect) : Nat :=
  r.y + r.height

/-- The part of an area that a border around it leaves. -/
def inner (r : Rect) : Rect where
  x := min (r.x + 1) r.right
  y := min (r.y + 1) r.bottom
  width := r.width - 2
  height := r.height - 2

/-- The area without its last row, and that row.  The first part has three rows at least, as far as
there are any. -/
def splitStatus (r : Rect) : Rect × Rect :=
  let main := if r.height ≤ 3 then r.height else r.height - 1
  ({ r with height := main }, { r with y := r.y + main, height := r.height - main })

/-- The largest coordinate that there is. -/
def lastCoordinate : Nat := 65535

/-- A coordinate given in hundredths, rounded; a half counts up. -/
def roundHundredths (n : Nat) : Nat :=
  (n + 50) / 100

/-- The middle part of a stretch of `length` cells from `start`: `percent` per cent of it, after half
of the other per cents.  A stretch ends at the last coordinate, if not before.  Both ends of the part
are rounded, so it may be a cell longer than its share. -/
def middle (percent start length : Nat) : Nat × Nat :=
  let before := (100 - percent) / 2
  let length := min length (lastCoordinate - start)
  let first := roundHundredths (100 * start + length * before)
  let last := roundHundredths (100 * start + length * (before + percent))
  (first, last - first)

/-- The area in the middle of another one, with given per cents of its width and height. -/
def centered (percentX percentY : Nat) (r : Rect) : Rect :=
  let (y, height) := middle percentY r.y r.height
  let (x, width) := middle percentX r.x r.width
  ⟨x, y, width, height⟩

end Rect
end Screen
end FontPreferences
