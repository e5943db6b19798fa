import FontPreferences.Slider

/-
The bar drawn for a slider: brackets around a filled part and blanks.
-/
namespace FontPreferences
namespace Bar

/-- How many of `width` cells are filled at a fraction.  A fraction outside `0 … 1` counts as the
end it is beyond, and one that is not finite as zero. -/
def filled (fraction : Binary64) (width : Nat) : Nat :=
  match fraction.toRat? with
  | none => 0
  | some q =>
    let share := if q < 0 then 0 else if 1 < q then 1 else q
    (Binary64.roundHalfAway (Binary64.nearest (share * Binary64.nearest (width : Rat)))).toNat

/-- The bar at a fraction: filled cells, then blanks up to the width. -/
def render (fraction : Binary64) (width : Nat) : String :=
  let n := filled fraction width
  String.ofList ('[' :: List.replicate n '=' ++ List.replicate (width - n) ' ' ++ [']'])

end Bar

/-- The bar of a slider at its raw position. -/
def Slider.bar (s : Slider) (width : Nat) : String :=
  Bar.render (.finite s.fraction) width

end FontPreferences
