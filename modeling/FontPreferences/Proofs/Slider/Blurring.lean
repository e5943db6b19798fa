import FontPreferences.Proofs.Slider.Nearest

/-
Which numbers of the format are blurred, and how far this takes the answer off.

* `Blurred.lower_neg`, `Blurred.upper_pos`: a number of the format is blurred only between a negative
  and a positive value, since its distance to a value on the other side of zero is the only one that
  may need more bits than it has itself; `nearest_closest_of_oneSided`: so there is none over a map on
  one side of zero;
* `Blurred.excess_le`: the answer is farther away than the nearest value by a part in `2 ^ 52` of its
  distance at most;
* `nearest_closestTo_iff`: the same for every finite number that sixty-four bits stand for;
  `closestTo_misses`: there are blurred ones.
-/
namespace FontPreferences
namespace ValueMap

open Binary64 (twoPow Representable)

variable {m : ValueMap} {target : Rat} {lower upper : Int32}

/-- A value that is no farther from a number of the format than zero is at an exact distance. -/
theorem representable_sub_toRat {v : Int32} (htarget : Representable target)
    (hsize : |target| ≤ 2 ^ 53) (h : |target - toRat v| ≤ |target|) :
    Representable (target - toRat v) :=
  htarget.sub_intCast hsize h

theorem Neighbours.abs_target_le (h : m.Neighbours target lower upper) : |target| ≤ 2 ^ 53 := by
  have hlower := (toRat_bounds lower).1
  have hupper := (toRat_bounds upper).2
  have hlt := h.lower_lt
  have hge := h.le_upper
  exact abs_le.2 ⟨by linarith, by linarith⟩

theorem Blurred.lower_neg (h : m.Blurred target lower upper) (htarget : Representable target) :
    lower < 0 := by
  by_contra hnonneg
  have hlower : 0 ≤ toRat lower := toRat_le_toRat.2 (Int32.not_lt.1 hnonneg)
  have hlt := h.lower_lt
  refine h.not_representable.1 (representable_sub_toRat htarget h.abs_target_le ?_)
  rw [abs_of_pos (by linarith), abs_of_pos (by linarith)]
  linarith

theorem Blurred.upper_pos (h : m.Blurred target lower upper) (htarget : Representable target) :
    0 < upper := by
  by_contra hnonpos
  have hupper : toRat upper ≤ 0 := toRat_le_toRat.2 (Int32.not_lt.1 hnonpos)
  have hge := h.le_upper
  have hexact : Representable (target - toRat upper) := by
    refine representable_sub_toRat htarget h.abs_target_le ?_
    rw [abs_of_nonpos (by linarith), abs_of_nonpos (by linarith)]
    linarith
  refine h.not_representable.2 ?_
  rw [← neg_sub]
  exact hexact.neg

/-- **On one side of zero every number of the format is answered with the nearest value.** -/
theorem nearest_closest_of_oneSided (htarget : Representable target)
    (h : (∀ v ∈ m.values, 0 ≤ v) ∨ ∀ v ∈ m.values, v ≤ 0) :
    m.Nearest target (m.closest target) := by
  rw [nearest_closest_iff]
  rintro ⟨lower, upper, hblurred⟩
  rcases h with hnonneg | hnonpos
  · exact Int32.not_lt.2 (hnonneg lower hblurred.lower_mem) (hblurred.lower_neg htarget)
  · exact Int32.not_lt.2 (hnonpos upper hblurred.upper_mem) (hblurred.upper_pos htarget)

/-- The lower neighbour is farther away by the error of one rounding. -/
theorem Blurred.excess_le (h : m.Blurred target lower upper) (htarget : Representable target) :
    (target - toRat lower) - (toRat upper - target) ≤ (target - toRat lower) * twoPow (-52) := by
  have hcloser := h.closer
  have hlt := h.lower_lt
  have hdistance : 1 ≤ target - toRat lower := by
    have hgap : lower.toInt + 2 ≤ upper.toInt := by
      have := Int32.lt_iff_toInt_lt.1 (h.lower_neg htarget)
      have := Int32.lt_iff_toInt_lt.1 (h.upper_pos htarget)
      rw [Int32.toInt_zero] at *
      omega
    have : toRat lower + 2 ≤ toRat upper := by
      rw [toRat, toRat]
      exact_mod_cast hgap
    linarith
  have hround := Binary64.abs_nearest_sub_le_mul (q := target - toRat lower)
    (.inr (by rwa [abs_of_pos (by linarith)]))
  rw [h.nearest_sub_lower, abs_of_pos (sub_pos.2 hlt)] at hround
  rw [Binary64.twoPow_neg_fiftyTwo]
  linarith [(abs_le.1 hround).1]

/-! ### Finite numbers of sixty-four bits -/

theorem closestTo_of_toRat? {x : Binary64} (h : x.toRat? = some target) :
    m.closestTo x = m.closest target := by
  cases x with
  | nan => exact absurd h (by simp [Binary64.toRat?])
  | infinite negative => exact absurd h (by simp [Binary64.toRat?])
  | negativeZero =>
    rw [← Option.some_inj.1 h]
    rfl
  | finite q =>
    rw [← Option.some_inj.1 h]
    rfl

/-- **The value closest to a number is the nearest one by exact distances, unless the number is
blurred.**  Over any map and for any finite number of sixty-four bits, the answer is the permitted
value at the least distance, the lower one of two at the same distance, exactly when the number is
not blurred.  A blurred number lies between a negative and a positive value; the negative one is the
answer though the positive one is nearest, and it is farther away by a part in `2 ^ 52` of its
distance at most.  So over a map on one side of zero the answer is the nearest value for every
number. -/
theorem nearest_closestTo_iff (m : ValueMap) {bits : UInt64} {target : Rat}
    (h : (Binary64.ofBits bits).toRat? = some target) :
    (m.Nearest target (m.closestTo (Binary64.ofBits bits)) ↔
        ¬ ∃ lower upper, m.Blurred target lower upper) ∧
      (∀ lower upper, m.Blurred target lower upper →
        m.closestTo (Binary64.ofBits bits) = lower ∧ m.Nearest target upper ∧
          lower < 0 ∧ 0 < upper ∧
          (target - toRat lower) - (toRat upper - target)
            ≤ (target - toRat lower) * twoPow (-52)) ∧
      ((∀ v ∈ m.values, 0 ≤ v) ∨ (∀ v ∈ m.values, v ≤ 0) →
        m.Nearest target (m.closestTo (Binary64.ofBits bits))) := by
  have htarget := Binary64.representable_of_ofBits h
  rw [closestTo_of_toRat? h]
  refine ⟨nearest_closest_iff m target, fun lower upper hblurred => ?_,
    nearest_closest_of_oneSided htarget⟩
  exact ⟨hblurred.closest_eq, hblurred.nearest_upper, hblurred.lower_neg htarget,
    hblurred.upper_pos htarget, hblurred.excess_le htarget⟩

/-- A map of two values, one on either side of zero. -/
def aroundZero : ValueMap :=
  ⟨-1, [1], by decide⟩

/-- As doubles, the distances of `2 ^ -54` to minus one and to one are both one. -/
theorem blurred_aroundZero : aroundZero.Blurred (twoPow (-54)) (-1) 1 where
  lower_mem := aroundZero.first_mem
  upper_mem := aroundZero.last_mem
  lower_lt := by decide +kernel
  le_upper := by decide +kernel
  split := by
    intro w hw
    rcases List.mem_cons.1 hw with rfl | hw
    · exact .inl (Int32.le_refl _)
    · rw [List.mem_singleton.1 hw]
      exact .inr (Int32.le_refl _)
  closer := by decide +kernel
  rounded := by decide +kernel

/-- The bits of `2 ^ -54`, and what is answered to them. -/
theorem nearest_closestTo_around_zero :
    (Binary64.ofBits 0x3c90000000000000).toRat? = some (twoPow (-54)) ∧
      aroundZero.Blurred (twoPow (-54)) (-1) 1 ∧
      aroundZero.closestTo (Binary64.ofBits 0x3c90000000000000) = -1 ∧
      aroundZero.Nearest (twoPow (-54)) 1 := by
  have hbits : (Binary64.ofBits 0x3c90000000000000).toRat? = some (twoPow (-54)) := by
    decide +kernel
  obtain ⟨hanswer, hnearest, -⟩ :=
    (nearest_closestTo_iff aroundZero hbits).2.1 (-1) 1 blurred_aroundZero
  exact ⟨hbits, blurred_aroundZero, hanswer, hnearest⟩

/-- **The closest value need not be the nearest one**: to `2 ^ -54` the answer is minus one, though
one is closer. -/
theorem closestTo_misses :
    (Binary64.ofBits 0x3c90000000000000).toRat? = some (twoPow (-54)) ∧
      aroundZero.closestTo (Binary64.ofBits 0x3c90000000000000) = -1 ∧
      |toRat 1 - twoPow (-54)| < |toRat (-1) - twoPow (-54)| ∧
      ¬ aroundZero.Nearest (twoPow (-54)) (-1) := by
  have hcloser : |toRat 1 - twoPow (-54)| < |toRat (-1) - twoPow (-54)| := by
    rw [abs_toRat_sub_of_le blurred_aroundZero.le_upper,
      abs_toRat_sub_of_lt blurred_aroundZero.lower_lt]
    exact blurred_aroundZero.closer
  refine ⟨by decide +kernel, by decide +kernel, hcloser, fun hnearest => ?_⟩
  exact absurd (hnearest.le 1 aroundZero.last_mem) (not_le.2 hcloser)

end ValueMap
end FontPreferences
