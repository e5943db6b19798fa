import FontPreferences.Proofs.Slider.Standing
import FontPreferences.Slider.Bar

/-
The bar of a slider follows its position.

* `filled_le`, `filled_mono`: no more cells are filled than there are, and a greater fraction fills
  no fewer, however the product with the width is rounded;
* `filled_of_nonpos`, `filled_of_one_le`: what is not positive, or not finite, fills nothing, and what
  is one or more fills everything;
* `fraction_mono`, `fraction_of_last`: the fraction of a slider grows with its position up to one;
* `Gauge width cells`, `bar_follows_position`: all of this on the text that is drawn.
-/
namespace FontPreferences

open Binary64 (representable_zero representable_one)

namespace Bar

variable {x y : Binary64} {p q : Rat} {width : Nat}

/-! ### The share of the width -/

/-- A fraction forced between zero and one. -/
def share (q : Rat) : Rat :=
  if q < 0 then 0 else if 1 < q then 1 else q

theorem share_eq (q : Rat) : share q = max 0 (min 1 q) := by
  rw [share]
  split
  · next h => rw [max_eq_left (min_le_of_right_le h.le)]
  · next h =>
    split
    · next hlt => rw [min_eq_left hlt.le, max_eq_right zero_le_one]
    · next hle => rw [min_eq_right (not_lt.1 hle), max_eq_right (not_lt.1 h)]

theorem share_mono (h : p ≤ q) : share p ≤ share q := by
  rw [share_eq, share_eq]
  exact max_le_max_left 0 (min_le_min_left 1 h)

theorem share_bounds (q : Rat) : 0 ≤ share q ∧ share q ≤ 1 := by
  rw [share_eq]
  exact ⟨le_max_left _ _, max_le zero_le_one (min_le_left _ _)⟩

theorem share_of_nonpos (h : q ≤ 0) : share q = 0 := by
  rw [share_eq, max_eq_left (min_le_of_right_le h)]

theorem share_of_one_le (h : 1 ≤ q) : share q = 1 := by
  rw [share_eq, min_eq_left h, max_eq_right zero_le_one]

/-! ### Filled cells -/

theorem filled_of_toRat?_eq_none (h : x.toRat? = none) (width : Nat) : filled x width = 0 := by
  rw [filled, h]

section finite

variable (hwidth : width < 2 ^ 32)
include hwidth

theorem width_le : width ≤ 2 ^ 53 := by
  omega

/-- A width of thirty-two bits is not rounded, the product with it is. -/
theorem filled_eq (h : x.toRat? = some q) : filled x width
    = (Binary64.roundHalfAway (Binary64.nearest (share q * width))).toNat := by
  have hexact := (Binary64.representable_natCast (width_le hwidth)).nearest_eq
  rw [filled, h]
  dsimp only
  rw [hexact, share]

/-- No more cells are filled than there are. -/
theorem filled_le (x : Binary64) : filled x width ≤ width := by
  cases h : x.toRat? with
  | none =>
    rw [filled_of_toRat?_eq_none h]
    exact Nat.zero_le width
  | some q =>
    have hproduct := (Binary64.nearest_mul_bounds (width_le hwidth) (share_bounds q)).2
    have hround : Binary64.roundHalfAway (Binary64.nearest (share q * width)) ≤ width := by
      refine Binary64.roundHalfAway_le ?_
      rw [Int.cast_natCast]
      linarith
    rw [filled_eq hwidth h]
    omega

/-- **A greater fraction fills no fewer cells.** -/
theorem filled_mono (hx : x.toRat? = some p) (hy : y.toRat? = some q) (h : p ≤ q) :
    filled x width ≤ filled y width := by
  have hproduct := Binary64.nearest_mono
    (mul_le_mul_of_nonneg_right (share_mono h) (Nat.cast_nonneg width))
  rw [filled_eq hwidth hx, filled_eq hwidth hy]
  exact Int.toNat_le_toNat (Binary64.roundHalfAway_mono hproduct)

/-- A share that leaves a whole number of cells fills that number. -/
theorem filled_of_product_eq {n : Nat} (h : x.toRat? = some q) (hproduct : share q * width = n)
    (hn : n ≤ width) : filled x width = n := by
  have hexact := (Binary64.representable_natCast (hn.trans (width_le hwidth))).nearest_eq
  have hround := Binary64.roundHalfAway_intCast n
  rw [Int.cast_natCast] at hround
  rw [filled_eq hwidth h, hproduct, hexact, hround, Int.toNat_natCast]

/-- What is not positive fills nothing, and neither does what is not finite. -/
theorem filled_of_nonpos (h : ∀ q, x.toRat? = some q → q ≤ 0) : filled x width = 0 := by
  cases hx : x.toRat? with
  | none => exact filled_of_toRat?_eq_none hx width
  | some q =>
    refine filled_of_product_eq hwidth hx ?_ (Nat.zero_le width)
    rw [share_of_nonpos (h q hx), zero_mul, Nat.cast_zero]

theorem filled_of_one_le (h : x.toRat? = some q) (hq : 1 ≤ q) : filled x width = width := by
  refine filled_of_product_eq hwidth h ?_ le_rfl
  rw [share_of_one_le hq, one_mul]

end finite

/-! ### The text -/

/-- The text of a bar of `width` cells, the first `n` of them filled and the others blank. -/
def cellsText (n width : Nat) : List Char :=
  '[' :: List.replicate n '=' ++ List.replicate (width - n) ' ' ++ [']']

theorem toList_render (x : Binary64) (width : Nat) :
    (render x width).toList = cellsText (filled x width) width := by
  rw [render, String.toList_ofList, cellsText]

theorem length_cellsText {n : Nat} (h : n ≤ width) : (cellsText n width).length = width + 2 := by
  simp only [cellsText, List.length_append, List.length_cons, List.length_replicate,
    List.length_nil]
  omega

theorem count_cellsText (n width : Nat) : (cellsText n width).count '=' = n := by
  simp [cellsText, List.count_replicate]

/-- How the cells of a bar are filled: `cells x` of them at a fraction `x`. -/
structure Gauge (width : Nat) (cells : Binary64 → Nat) : Prop where
  text : ∀ x, (render x width).toList = cellsText (cells x) width
  le_width : ∀ x, cells x ≤ width
  mono : ∀ x y p q, x.toRat? = some p → y.toRat? = some q → p ≤ q → cells x ≤ cells y
  /-- What is not finite has no rational, and counts as zero. -/
  empty : ∀ x, (∀ q, x.toRat? = some q → q ≤ 0) → cells x = 0
  full : ∀ x q, x.toRat? = some q → 1 ≤ q → cells x = width

theorem gauge_filled (h : width < 2 ^ 32) : Gauge width (filled · width) where
  text x := toList_render x width
  le_width := filled_le h
  mono _ _ _ _ := filled_mono h
  empty _ := filled_of_nonpos h
  full _ _ := filled_of_one_le h

end Bar

/-! ### The bar of a slider -/

namespace Slider

variable {s t : Slider}

theorem fraction_mono (hsteps : t.steps = s.steps) (h : s.position ≤ t.position) :
    s.fraction ≤ t.fraction := by
  rw [fraction, fraction, hsteps]
  split
  · exact le_rfl
  · have hlast : t.lastPosition = s.lastPosition := by rw [lastPosition, hsteps, lastPosition]
    have hposition : (s.position : Rat) ≤ t.position := by exact_mod_cast h
    rw [hlast]
    exact Binary64.nearest_mono (div_le_div_of_nonneg_right hposition (Nat.cast_nonneg _))

theorem fraction_of_zero (h : s.position = 0) : s.fraction = 0 := by
  rw [fraction]
  split
  · rfl
  · rw [h, Nat.cast_zero, zero_div]
    exact representable_zero.nearest_eq

/-- The last position is the whole range, if there is another one. -/
theorem fraction_of_last (hsteps : 1 < s.steps) (h : s.position = s.lastPosition) :
    s.fraction = 1 := by
  rw [fraction, if_neg (not_le.2 hsteps), h, div_self (lastPosition_pos hsteps).ne']
  exact representable_one.nearest_eq

/-- **The bar follows the slider.**  At any width of thirty-two bits, the bar of a fraction is made of
the filled cells and the blank ones, as many as the width in all; a greater fraction fills no fewer of
them, one that is not finite or not positive fills none, and one or more fills all.  Hence the bar of
a slider has one length wherever the slider stands, has no fewer filled cells at a higher position,
none at the first, and no blank ones at the last of several. -/
theorem bar_follows_position {width : Nat} (hwidth : width < 2 ^ 32) :
    (∃ cells, Bar.Gauge width cells) ∧
      ∀ s : Slider, (s.bar width).length = width + 2 ∧
        (∀ t : Slider, t.steps = s.steps → s.position ≤ t.position →
          (s.bar width).toList.count '=' ≤ (t.bar width).toList.count '=') ∧
        (s.position = 0 → (s.bar width).toList = Bar.cellsText 0 width) ∧
        (1 < s.steps → s.position = s.steps - 1 →
          (s.bar width).toList = Bar.cellsText width width) := by
  refine ⟨⟨_, Bar.gauge_filled hwidth⟩, fun s => ⟨?_, fun t hsteps hle => ?_, fun hzero => ?_,
    fun hsteps hlast => ?_⟩⟩
  · rw [← String.length_toList, bar, Bar.toList_render,
      Bar.length_cellsText (Bar.filled_le hwidth _)]
  · rw [bar, bar, Bar.toList_render, Bar.toList_render, Bar.count_cellsText, Bar.count_cellsText]
    exact Bar.filled_mono hwidth rfl rfl (fraction_mono hsteps hle)
  · have hempty : Bar.filled (.finite s.fraction) width = 0 := by
      rw [fraction_of_zero hzero]
      exact Bar.filled_of_nonpos hwidth fun q hq => (Option.some_inj.1 hq).ge
    rw [bar, Bar.toList_render, hempty]
  · have hfull : Bar.filled (.finite s.fraction) width = width :=
      Bar.filled_of_one_le hwidth rfl (fraction_of_last hsteps hlast).ge
    rw [bar, Bar.toList_render, hfull]

/-- At the largest size the bar of the serif slider is full, ten cells of it. -/
theorem bar_follows_largest_size :
    let s := (create .serifSize .fontSizes false).setValue 72
    10 < 2 ^ 32 ∧ 1 < s.steps ∧ s.position = s.steps - 1 ∧
      (s.bar 10).toList = "[==========]".toList := by
  intro s
  have hsteps : 1 < s.steps := by decide +kernel
  have hposition : s.position = s.steps - 1 := by decide +kernel
  exact ⟨by decide, hsteps, hposition,
    ((bar_follows_position (by decide)).2 s).2.2.2 hsteps hposition⟩

end Slider
end FontPreferences
