import FontPreferences.Proofs.Slider.Motion

/-
Between the first and the last permitted value.

* `first_le_interpolate`, `interpolate_le`: however its operations round, the interpolation of a
  position stays between the first value and a hair above the last;
* `last_sub_hair_le_interpolate`: the one of the last position is no more than a hair below it;
* `representable_interpolate_sub`: a permitted value is away from it by a number of the format, as
  long as the first value is no nearer;
* `nearest_resolve`: hence a plain slider snaps to the value that is nearest by exact distances,
  although it compares rounded ones.

The rounded product and quotient may carry the last position beyond the last value or leave it short
of it: over a range of `2 ^ 32` the quotient is off by one unit, `2 ^ -21`, at most.
-/
namespace FontPreferences

open Binary64 (twoPow twoPow_eq_zpow OnGrid Representable representable_zero)

namespace ValueMap

theorem toRat_span (m : ValueMap) : (m.span : Rat) = toRat m.last - toRat m.first := by
  rw [span, toRat, toRat, Int.cast_sub]

/-- The range of a map is one of thirty-two bits. -/
theorem span_bounds (m : ValueMap) : 0 ≤ m.span ∧ m.span < 2 ^ 32 := by
  have hle := Int32.le_iff_toInt_le.1 (le_last (first_mem m))
  have hlast := m.last.toInt_lt
  have hfirst := m.first.le_toInt
  rw [span]
  omega

end ValueMap

namespace Slider

variable {s : Slider} {position : Nat}

/-- How far above the first value the range places a position: the quotient of a rounded product. -/
def advance (s : Slider) (position : Nat) : Rat :=
  Binary64.nearest ((s.map.span : Rat) * (min position s.lastPosition : Nat)) / s.lastPosition

theorem interpolate_eq (h : 1 < s.steps) : s.interpolate position
    = Binary64.nearest (ValueMap.toRat s.map.first + Binary64.nearest (s.advance position)) := by
  rw [interpolate, if_neg (by omega), advance]

/-- With one position only there is nothing to interpolate. -/
theorem interpolate_of_steps_le (h : s.steps ≤ 1) :
    s.interpolate position = ValueMap.toRat s.map.first := by
  rw [interpolate, if_pos h]

/-- Positions beyond the range count as the last one. -/
theorem interpolate_min (s : Slider) (position : Nat) :
    s.interpolate (min position s.lastPosition) = s.interpolate position := by
  simp only [interpolate, min_assoc, min_self]

theorem resolve_min (s : Slider) (position : Nat) :
    s.resolve (min position s.lastPosition) = s.resolve position := by
  rw [resolve, interpolate_min, resolve]

/-! ### How the operations round -/

/-- Rounding moves the product of a number of thirty-two bits and `p` by a hair for each unit of
`p`. -/
theorem abs_nearest_product_sub_le {a p : Nat} (ha : a < 2 ^ 32) :
    |Binary64.nearest ((a * p : Nat) : Rat) - (a * p : Nat)| ≤ p * twoPow (-21) := by
  have habs : |((a * p : Nat) : Rat)| = (a * p : Nat) := abs_of_nonneg (Nat.cast_nonneg _)
  have hround : |Binary64.nearest ((a * p : Nat) : Rat) - (a * p : Nat)|
      ≤ |((a * p : Nat) : Rat)| * twoPow (-53) := by
    refine Binary64.abs_nearest_sub_le_mul ?_
    rcases Nat.eq_zero_or_pos (a * p) with h | h
    · exact .inl (by rw [h, Nat.cast_zero])
    · refine .inr ?_
      rw [habs]
      exact_mod_cast h
  have hsize : ((a * p : Nat) : Rat) ≤ p * 2 ^ 32 := by
    rw [mul_comm a p]
    exact_mod_cast Nat.mul_le_mul_left p ha.le
  have hunit : (2 : Rat) ^ 32 * twoPow (-53) = twoPow (-21) := by
    rw [twoPow_eq_zpow, twoPow_eq_zpow]
    norm_num
  rw [habs] at hround
  calc |Binary64.nearest ((a * p : Nat) : Rat) - (a * p : Nat)|
      ≤ (a * p : Nat) * twoPow (-53) := hround
    _ ≤ p * 2 ^ 32 * twoPow (-53) :=
      mul_le_mul_of_nonneg_right hsize (Binary64.twoPow_pos _).le
    _ = p * twoPow (-21) := by rw [mul_assoc, hunit]

theorem hair_lt_half : twoPow (-21) < 1 / 2 := by
  rw [twoPow_eq_zpow]
  norm_num

/-- An integer of thirty-two bits and a hair make a number of the format. -/
theorem representable_add_hair {n : Int} (h : |n| < 2 ^ 32) :
    Representable (n + twoPow (-21)) := by
  refine ⟨-21, by omega, (Binary64.onGrid_intCast (by omega) n).add
    (Binary64.onGrid_twoPow le_rfl), ?_⟩
  have hn : |(n : Rat)| ≤ 2 ^ 32 - 1 := by exact_mod_cast Int.le_sub_one_of_lt h
  have hhair := hair_lt_half
  have htop : twoPow (-21 + 53) = 2 ^ 32 := by
    rw [twoPow_eq_zpow]
    norm_num
  have hpos := Binary64.twoPow_pos (-21)
  have hbounds := abs_le.1 hn
  rw [htop]
  exact abs_le.2 ⟨by linarith, by linarith⟩

theorem representable_sub_hair {n : Int} (h : |n| < 2 ^ 32) :
    Representable (n - twoPow (-21)) := by
  have hneg := (representable_add_hair (n := -n) (by rwa [abs_neg])).neg
  push_cast at hneg
  rwa [neg_add, neg_neg, ← sub_eq_add_neg] at hneg

theorem representable_span_add_hair (m : ValueMap) : Representable (m.span + twoPow (-21)) := by
  obtain ⟨hspan, hlt⟩ := m.span_bounds
  exact representable_add_hair (by rwa [abs_of_nonneg hspan])

theorem lastPosition_pos (h : 1 < s.steps) : (0 : Rat) < s.lastPosition := by
  have : 0 < s.lastPosition := by rw [lastPosition]; omega
  exact_mod_cast this

theorem advance_bounds (h : 1 < s.steps) (position : Nat) :
    0 ≤ s.advance position ∧ s.advance position ≤ s.map.span + twoPow (-21) := by
  obtain ⟨hspan, hspanLt⟩ := s.map.span_bounds
  have hlast := lastPosition_pos h
  constructor
  · have hproduct := representable_zero.le_nearest
      (mul_nonneg (Int.cast_nonneg hspan) (Nat.cast_nonneg (min position s.lastPosition)))
    exact div_nonneg hproduct hlast.le
  · obtain ⟨a, ha⟩ := Int.eq_ofNat_of_zero_le hspan
    have hround := (abs_le.1 (abs_nearest_product_sub_le (a := a)
      (p := min position s.lastPosition) (by omega))).2
    have hp : ((min position s.lastPosition : Nat) : Rat) ≤ s.lastPosition := by
      exact_mod_cast min_le_right position s.lastPosition
    have hshare := mul_le_mul_of_nonneg_left hp
      (add_nonneg (Nat.cast_nonneg a) (Binary64.twoPow_pos (-21)).le)
    rw [advance, div_le_iff₀ hlast, ha]
    push_cast at hround hshare ⊢
    linarith

/-- The last position is short of the range by a hair at most. -/
theorem span_sub_hair_le_advance (h : 1 < s.steps) (hlast : s.lastPosition ≤ position) :
    s.map.span - twoPow (-21) ≤ s.advance position := by
  obtain ⟨hspan, hspanLt⟩ := s.map.span_bounds
  obtain ⟨a, ha⟩ := Int.eq_ofNat_of_zero_le hspan
  have hround := (abs_le.1 (abs_nearest_product_sub_le (a := a) (p := s.lastPosition)
    (by omega))).1
  rw [advance, min_eq_right hlast, le_div_iff₀ (lastPosition_pos h), ha]
  push_cast at hround ⊢
  linarith

theorem nearest_advance_bounds (h : 1 < s.steps) (position : Nat) :
    0 ≤ Binary64.nearest (s.advance position) ∧
      Binary64.nearest (s.advance position) ≤ s.map.span + twoPow (-21) :=
  ⟨representable_zero.le_nearest (advance_bounds h position).1,
    (representable_span_add_hair s.map).nearest_le (advance_bounds h position).2⟩

theorem representable_toRat (v : Int32) : Representable (ValueMap.toRat v) := by
  have := v.toInt_lt
  have := v.le_toInt
  exact Binary64.representable_intCast (abs_le.2 ⟨by omega, by omega⟩)

theorem first_le_interpolate (s : Slider) (position : Nat) :
    ValueMap.toRat s.map.first ≤ s.interpolate position := by
  rcases Nat.lt_or_ge 1 s.steps with h | h
  · rw [interpolate_eq h]
    have hadvance := (nearest_advance_bounds h position).1
    exact (representable_toRat _).le_nearest (le_add_of_nonneg_right hadvance)
  · rw [interpolate_of_steps_le h]

theorem interpolate_le (s : Slider) (position : Nat) :
    s.interpolate position ≤ ValueMap.toRat s.map.last + twoPow (-21) := by
  have hspan := s.map.toRat_span
  rcases Nat.lt_or_ge 1 s.steps with h | h
  · have hlast : Representable (ValueMap.toRat s.map.last + twoPow (-21)) := by
      have := s.map.last.toInt_lt
      have := s.map.last.le_toInt
      exact representable_add_hair (abs_lt.2 ⟨by omega, by omega⟩)
    rw [interpolate_eq h]
    refine hlast.nearest_le ?_
    have := (nearest_advance_bounds h position).2
    linarith
  · rw [interpolate_of_steps_le h]
    have hnonneg : (0 : Rat) ≤ s.map.span := by exact_mod_cast s.map.span_bounds.1
    have hhair := Binary64.twoPow_pos (-21)
    linarith

/-- The interpolation of the last position is below the last value by a hair at most. -/
theorem last_sub_hair_le_interpolate (h : 1 < s.steps) (hlast : s.lastPosition ≤ position) :
    ValueMap.toRat s.map.last - twoPow (-21) ≤ s.interpolate position := by
  have hspan := s.map.toRat_span
  obtain ⟨hspanNonneg, hspanLt⟩ := s.map.span_bounds
  have hadvance : (s.map.span : Rat) - twoPow (-21) ≤ Binary64.nearest (s.advance position) :=
    (representable_sub_hair (by rwa [abs_of_nonneg hspanNonneg])).le_nearest
      (span_sub_hair_le_advance h hlast)
  have hend : Representable (ValueMap.toRat s.map.last - twoPow (-21)) := by
    have := s.map.last.toInt_lt
    have := s.map.last.le_toInt
    exact representable_sub_hair (abs_lt.2 ⟨by omega, by omega⟩)
  rw [interpolate_eq h]
  refine hend.le_nearest ?_
  linarith

/-! ### Distances -/

/-- The interpolation is away from the first value by fifty-three bits over a unit that divides
one. -/
theorem exists_unit_interpolate (s : Slider) (position : Nat) : ∃ e, -1074 ≤ e ∧ e ≤ 0 ∧
    OnGrid e (s.interpolate position - ValueMap.toRat s.map.first) ∧
    |s.interpolate position - ValueMap.toRat s.map.first| ≤ twoPow (e + 53) := by
  rcases Nat.lt_or_ge 1 s.steps with h | h
  · obtain ⟨hnonneg, hle⟩ := advance_bounds h position
    obtain ⟨hroundNonneg, hroundLe⟩ := nearest_advance_bounds h position
    have hspan : (s.map.span : Rat) < 2 ^ 32 := by exact_mod_cast s.map.span_bounds.2
    obtain ⟨hlow, hhigh⟩ := ValueMap.toRat_bounds s.map.first
    have hhair := hair_lt_half
    have hunit : Binary64.unitExponent (s.advance position) ≤ 0 := by
      refine Binary64.unitExponent_nonpos ?_
      rw [abs_of_nonneg hnonneg]
      linarith
    have hsum : |ValueMap.toRat s.map.first + Binary64.nearest (s.advance position)| < 2 ^ 53 :=
      abs_lt.2 ⟨by linarith, by linarith⟩
    rw [interpolate_eq h]
    exact Binary64.exists_unit_nearest_add (Binary64.le_unitExponent _) hunit
      (Binary64.onGrid_nearest _) (Binary64.abs_nearest_le _) hsum
  · rw [interpolate_of_steps_le h, sub_self, abs_zero]
    exact ⟨0, by omega, le_rfl, ⟨0, by simp⟩, (Binary64.twoPow_pos _).le⟩

/-- A permitted value is away from the interpolation by a number of the format, unless the first
value is nearer. -/
theorem representable_interpolate_sub {v : Int32}
    (h : |s.interpolate position - ValueMap.toRat v|
      ≤ |s.interpolate position - ValueMap.toRat s.map.first|) :
    Representable (s.interpolate position - ValueMap.toRat v) := by
  obtain ⟨e, hlow, hhigh, hgrid, hsize⟩ := exists_unit_interpolate s position
  exact Binary64.representable_sub_intCast hlow hhigh hgrid hsize h

/-- A plain slider resolves a position to the permitted value nearest to its interpolation. -/
theorem nearest_resolve (h : s.continuous = false) :
    s.map.Nearest (s.interpolate position) (s.resolve position) := by
  rw [resolve, h]
  refine ValueMap.nearest_closest_of fun lower upper hneighbours => ?_
  have hlt := hneighbours.lower_lt
  have hfirst := ValueMap.toRat_le_toRat.2 (ValueMap.first_le hneighbours.lower_mem)
  -- what is below the interpolation is no farther away than the first value
  refine representable_interpolate_sub ?_
  rw [abs_of_pos (by linarith), abs_of_pos (by linarith)]
  linarith

theorem value_input (s : Slider) (raw : Nat) (h : s.disabled = false) :
    (s.input raw).slider.position = min raw s.lastPosition ∧
      (s.input raw).slider.value = s.resolve raw := by
  rw [input, h]
  simp only [Bool.false_eq_true, if_false, resolve_min]
  split
  · next heq => exact ⟨rfl, heq.symm⟩
  · exact ⟨rfl, rfl⟩

/-- **Raw motion snaps to the nearest permitted value.**  An enabled plain slider, over any map and
with any number of positions, goes to the position, or to the last one if there is none so high, and
shows the permitted value at the least distance to the interpolation, the lower of two at the same
distance. -/
theorem nearest_input (s : Slider) (hplain : s.continuous = false) (henabled : s.disabled = false)
    (raw : Nat) : (s.input raw).slider.position = min raw s.lastPosition ∧
      s.map.Nearest (s.interpolate raw) (s.input raw).slider.value := by
  obtain ⟨hposition, hvalue⟩ := value_input s raw henabled
  rw [hvalue]
  exact ⟨hposition, nearest_resolve hplain⟩

/-- Position 10 of the serif slider stands for the size 19, as far from 18 as from 20. -/
theorem nearest_input_nineteen :
    let s := create .serifSize .fontSizes false
    s.continuous = false ∧ s.disabled = false ∧ s.interpolate 10 = 19 ∧
      (s.input 10).slider.value = 18 ∧
      s.map.Nearest (s.interpolate 10) (s.input 10).slider.value := by
  intro s
  exact ⟨rfl, rfl, by decide +kernel +zetaReduce, by decide +kernel +zetaReduce,
    (nearest_input s rfl rfl 10).2⟩

end Slider
end FontPreferences
