import FontPreferences.Proofs.Slider.Search

/-
Where a stored value sets a slider.

* `Closest s target v`: of the values that a position has, `v` is the one closest to the target, the
  lower of two equally close ones;
* `closest_searchPosition`: the search ends at a position with this value, whatever the target;
* `closest_setValue`: so does a slider that is set, whether its estimate is right or not;
* `setValue_congr`: where it ends depends on its range and the stored value alone;
* `setValue_finds_closest`: all of it, with what setting leaves for the raw motion that follows.
-/
namespace FontPreferences
namespace Slider

variable {s t : Slider} {v w target : Int32}

/-- The value of a position that is closest to a target, the lower of two equally close ones. -/
structure Closest (s : Slider) (target v : Int32) : Prop where
  reaches : s.Reaches v
  le : ∀ w, s.Reaches w → (v.toInt - target.toInt).natAbs ≤ (w.toInt - target.toInt).natAbs
  tie : ∀ w, s.Reaches w → (w.toInt - target.toInt).natAbs = (v.toInt - target.toInt).natAbs → v ≤ w

/-! ### Candidates -/

theorem closest_self (h : s.Reaches target) : s.Closest target target := by
  refine ⟨h, fun w _ => by omega, fun w _ heq => ?_⟩
  rw [Int32.le_iff_toInt_le]
  omega

/-- Below the target the greatest value is closest. -/
theorem closest_of_le (h : s.Reaches v) (hv : v ≤ target) (hgreatest : ∀ w, s.Reaches w → w ≤ v) :
    s.Closest target v := by
  simp only [Int32.le_iff_toInt_le] at hv hgreatest
  refine ⟨h, fun w hw => ?_, fun w hw heq => ?_⟩
  · have := hgreatest w hw
    omega
  · have := hgreatest w hw
    rw [Int32.le_iff_toInt_le]
    omega

/-- Above the target the least value is closest. -/
theorem closest_of_ge (h : s.Reaches v) (hv : target ≤ v) (hleast : ∀ w, s.Reaches w → v ≤ w) :
    s.Closest target v := by
  simp only [Int32.le_iff_toInt_le] at hv
  refine ⟨h, fun w hw => ?_, fun w hw _ => hleast w hw⟩
  have := Int32.le_iff_toInt_le.1 (hleast w hw)
  omega

/-- Between its neighbours the target is closest to the lower one, unless the upper one is strictly
closer. -/
theorem closest_of_between {lower upper : Int32} (hlower : s.Reaches lower)
    (hupper : s.Reaches upper) (hlt : lower < target) (hle : target ≤ upper)
    (hsplit : ∀ w, s.Reaches w → w ≤ lower ∨ upper ≤ w) :
    s.Closest target
      (if target.toInt - lower.toInt ≤ upper.toInt - target.toInt then lower else upper) := by
  simp only [Int32.le_iff_toInt_le, Int32.lt_iff_toInt_lt] at hlt hle hsplit
  split
  · next hcloser =>
    refine ⟨hlower, fun w hw => ?_, fun w hw heq => ?_⟩
    · rcases hsplit w hw with h | h <;> omega
    · rw [Int32.le_iff_toInt_le]
      rcases hsplit w hw with h | h <;> omega
  · next hcloser =>
    refine ⟨hupper, fun w hw => ?_, fun w hw heq => ?_⟩
    · rcases hsplit w hw with h | h <;> omega
    · rw [Int32.le_iff_toInt_le]
      rcases hsplit w hw with h | h <;> omega

/-! ### The search -/

/-- **The search finds the closest value that a position has.** -/
theorem closest_searchPosition (s : Slider) (target : Int32) :
    s.Closest target (s.resolve (s.searchPosition target)) := by
  have hreaches : ∀ {p}, p < s.steps → s.Reaches (s.resolve p) := fun hp => ⟨_, hp, rfl⟩
  have hlast := s.lastPosition_lt
  have hiff := lt_countPositions_lt_iff s target
  rw [searchPosition]
  dsimp only
  generalize s.countPositions (· < target) = above at hiff ⊢
  split
  · next hall =>
    -- every value lies below the target
    have hbelow := ((hiff s.lastPosition).1 (hlast.trans_le hall)).2
    refine closest_of_le (hreaches hlast) (Int32.le_of_lt hbelow) fun w hw => ?_
    obtain ⟨q, hq, rfl⟩ := hw
    exact s.resolve_mono (by rw [lastPosition]; omega)
  · next hsome =>
    -- the first position whose value does not
    rw [not_le] at hsome
    have habove : target ≤ s.resolve above :=
      Int32.not_lt.1 fun hlt => absurd ((hiff above).2 ⟨hsome, hlt⟩) (lt_irrefl above)
    split
    · next hfound =>
      rcases hfound with rfl | heq
      · refine closest_of_ge (hreaches hsome) habove fun w hw => ?_
        obtain ⟨q, -, rfl⟩ := hw
        exact s.resolve_mono (Nat.zero_le q)
      · rw [heq]
        exact closest_self ⟨above, hsome, heq⟩
    · next hother =>
      obtain ⟨hpositive, -⟩ := not_or.1 hother
      obtain ⟨hbefore, hbelow⟩ := (hiff (above - 1)).1 (by omega)
      have hsplit : ∀ w, s.Reaches w → w ≤ s.resolve (above - 1) ∨ s.resolve above ≤ w := by
        rintro w ⟨q, -, rfl⟩
        rcases Nat.lt_or_ge q above with hq | hq
        · exact .inl (s.resolve_mono (by omega))
        · exact .inr (s.resolve_mono hq)
      have hclosest :=
        closest_of_between (hreaches hbefore) (hreaches hsome) hbelow habove hsplit
      rwa [← apply_ite s.resolve] at hclosest

/-! ### Setting -/

theorem setValue_value (s : Slider) (v : Int32) : (s.setValue v).value
    = if s.resolve (s.estimate (s.snapped v)) = s.snapped v then s.snapped v
      else s.resolve (s.searchPosition (s.snapped v)) := by
  rw [setValue]
  dsimp only
  split <;> rfl

theorem setValue_position (s : Slider) (v : Int32) : (s.setValue v).position
    = if s.resolve (s.estimate (s.snapped v)) = s.snapped v then s.estimate (s.snapped v)
      else s.searchPosition (s.snapped v) := by
  rw [setValue]
  dsimp only
  split <;> rfl

/-- **A slider is set to the closest value that a position has.** -/
theorem closest_setValue (s : Slider) (v : Int32) :
    s.Closest (s.snapped v) (s.setValue v).value := by
  rw [setValue_value]
  split
  · next hguess =>
    exact closest_self ⟨_, estimate_lt (permits_snapped s v).between, hguess⟩
  · exact closest_searchPosition s _

/-- A target that a position has is closest to itself. -/
theorem Closest.eq_of_reaches (h : s.Closest target v) (ht : s.Reaches target) : v = target := by
  have hle := h.le target ht
  rw [← Int32.toInt_inj]
  omega

theorem countPositions_lt_congr (h : s.SameRange t) (target : Int32) :
    t.countPositions (· < target) = s.countPositions (· < target) := by
  refine eq_of_forall_lt_iff fun p => ?_
  rw [lt_countPositions_lt_iff, lt_countPositions_lt_iff, h.resolve_eq, h.steps]

theorem searchPosition_congr (h : s.SameRange t) (target : Int32) :
    t.searchPosition target = s.searchPosition target := by
  simp only [searchPosition, countPositions_lt_congr h, h.resolve_eq, h.steps, lastPosition]

/-- Where a slider is set depends on its range and the stored value alone. -/
theorem setValue_congr (h : s.SameRange t) (v : Int32) :
    (t.setValue v).position = (s.setValue v).position ∧
      (t.setValue v).value = (s.setValue v).value := by
  have hsnapped : t.snapped v = s.snapped v := by rw [snapped, h.continuous, h.map, snapped]
  have hestimate := estimate_congr (s := t) (t := s) h.map h.steps (s.snapped v)
  rw [setValue_position, setValue_position, setValue_value, setValue_value, hsnapped, hestimate,
    h.resolve_eq, h.resolve_eq, searchPosition_congr h]
  exact ⟨rfl, rfl⟩

theorem clamp_eq {a b : Int32} (ha : a ≤ v) (hb : v ≤ b) : max a (min b v) = v := by
  have hmin : min b v = if b ≤ v then b else v := rfl
  have hmax : max a v = if a ≤ v then v else a := rfl
  have hlow : min b v = v := by
    rw [hmin]
    split
    · next h => exact Int32.le_antisymm h hb
    · rfl
  rw [hlow, hmax, if_pos ha]

/-- A permitted value is not snapped. -/
theorem Permits.snapped_eq (h : s.Permits v) : s.snapped v = v := by
  have hends := h.between
  rw [Permits] at h
  rw [snapped]
  cases hcontinuous : s.continuous with
  | false =>
    rw [hcontinuous] at h
    exact (ValueMap.nearest_closest_toRat s.map v).unique (ValueMap.nearest_self h)
  | true => exact clamp_eq hends.1 hends.2

/-- A slider that is set to the value that it shows keeps it. -/
theorem setValue_self (h : s.Standing) : (s.setValue s.value).value = s.value := by
  have hpermits := permits_resolve s s.position
  rw [← h.value_eq] at hpermits
  have hclosest := closest_setValue s s.value
  rw [hpermits.snapped_eq] at hclosest
  exact hclosest.eq_of_reaches h.reaches

theorem input_position (h : s.Standing) : s.input s.position = s.still := by
  have hposition : min s.position s.lastPosition = s.position :=
    min_eq_left (Nat.le_sub_one_of_lt h.position_lt)
  rw [input]
  split
  · rfl
  · dsimp only
    rw [hposition, if_pos h.value_eq.symm]

/-- **Where a stored value sets a slider**, over any map, with any number of positions, plain or
continuous, wherever it stood before.

* The stored value is snapped to the permitted one nearest to it, and by a continuous slider forced
  between the ends of the map.
* Of the values that a position has, the slider takes the one closest to that, the lower of two equally
  close ones; so if a position has the very value, the slider takes it.
* Where it ends does not depend on where it was.
* Being set to the value that it shows, a reachable slider keeps it.
* Raw motion to the position where the slider ends does nothing, and no hook is called. -/
theorem setValue_finds_closest (s : Slider) (v : Int32) :
    (if s.continuous then s.snapped v = max s.map.first (min s.map.last v)
      else s.map.Nearest (ValueMap.toRat v) (s.snapped v)) ∧
    s.Closest (s.snapped v) (s.setValue v).value ∧
    (s.Reaches (s.snapped v) → (s.setValue v).value = s.snapped v) ∧
    (∀ t, s.SameRange t → (t.setValue v).position = (s.setValue v).position ∧
      (t.setValue v).value = (s.setValue v).value) ∧
    (s.Reachable → (s.setValue s.value).value = s.value) ∧
    (s.setValue v).input (s.setValue v).position = ⟨s.setValue v, none, []⟩ ∧
    s.handle (.setValue v) = ⟨s.setValue v, none, []⟩ := by
  have hclosest := closest_setValue s v
  refine ⟨?_, hclosest, hclosest.eq_of_reaches, fun t ht => setValue_congr ht v,
    fun h => setValue_self h.standing, input_position (standing_setValue s v), rfl⟩
  cases hcontinuous : s.continuous with
  | false =>
    rw [snapped, hcontinuous]
    exact ValueMap.nearest_closest_toRat s.map v
  | true =>
    rw [snapped, hcontinuous]
    rfl

/-- A range of three positions has the values 9, 40 and 72 only; the size 26 is closest to the second. -/
theorem setValue_finds_forty :
    let s := { create .serifSize .fontSizes false with
      steps := 3, steps_pos := by decide, steps_lt := by decide }
    withSteps .serifSize .fontSizes false 3 = .ok s ∧ s.snapped 26 = 26 ∧
      (s.setValue 26).value = 40 ∧ s.Closest 26 40 := by
  intro s
  have hsnapped : s.snapped 26 = 26 := by decide +kernel +zetaReduce
  have hvalue : (s.setValue 26).value = 40 := by decide +kernel +zetaReduce
  have hclosest := (setValue_finds_closest s 26).2.1
  rw [hsnapped, hvalue] at hclosest
  exact ⟨by rw [withSteps, dif_pos (by decide)]; rfl, hsnapped, hvalue, hclosest⟩

end Slider
end FontPreferences
