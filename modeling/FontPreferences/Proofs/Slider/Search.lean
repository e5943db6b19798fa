import FontPreferences.Proofs.Slider.Standing

/-
Searching the positions of a slider.

* `interpolate_mono`, `resolve_mono`: no operation of the interpolation takes two positions out of
  their order, however it rounds, and so a higher position has no lower value;
* `bisect_separates`, `lt_countPositions_iff`: hence a bisection finds where the values end that pass
  a test which every lower value passes as well;
* `Reaches s v`: `v` is the value of a position;
* `Reachable s`: `s` is a slider as it is built, with hooks installed and after any events;
  `Reachable.standing`: the value of such a slider is the one of its position.
-/
namespace FontPreferences
namespace Slider

variable {s : Slider}

/-! ### Order -/

theorem advance_mono (h : 1 < s.steps) {p q : Nat} (hpq : p ≤ q) : s.advance p ≤ s.advance q := by
  have hspan : (0 : Rat) ≤ s.map.span := by exact_mod_cast s.map.span_bounds.1
  have hmin : ((min p s.lastPosition : Nat) : Rat) ≤ (min q s.lastPosition : Nat) := by
    exact_mod_cast min_le_min_right s.lastPosition hpq
  have hproduct := Binary64.nearest_mono (mul_le_mul_of_nonneg_left hmin hspan)
  exact div_le_div_of_nonneg_right hproduct (lastPosition_pos h).le

theorem interpolate_mono (s : Slider) {p q : Nat} (hpq : p ≤ q) :
    s.interpolate p ≤ s.interpolate q := by
  rcases Nat.lt_or_ge 1 s.steps with h | h
  · have hquotient := Binary64.nearest_mono (advance_mono h hpq)
    rw [interpolate_eq h, interpolate_eq h]
    exact Binary64.nearest_mono (by linarith)
  · rw [interpolate_of_steps_le h, interpolate_of_steps_le h]

/-- **A higher position has no lower value.** -/
theorem resolve_mono (s : Slider) {p q : Nat} (hpq : p ≤ q) : s.resolve p ≤ s.resolve q := by
  have hinterpolate := s.interpolate_mono hpq
  cases h : s.continuous with
  | false => exact (nearest_resolve h).mono (nearest_resolve h) hinterpolate
  | true =>
    rw [Int32.le_iff_toInt_le, toInt_resolve h, toInt_resolve h]
    exact Binary64.roundHalfAway_mono hinterpolate

theorem lt_of_resolve_lt {p q : Nat} (h : s.resolve p < s.resolve q) : p < q := by
  by_contra hle
  exact Int32.not_lt.2 (s.resolve_mono (not_lt.1 hle)) h

/-! ### Bisection -/

section accept

variable {accept : Int32 → Bool}
  (hdown : ∀ v w, v ≤ w → accept w = true → accept v = true)
include hdown

/-- Between its bounds a bisection separates the positions whose values pass from the others. -/
theorem bisect_separates (s : Slider) {low high : Nat} (h : low ≤ high) :
    low ≤ s.bisect accept low high ∧ s.bisect accept low high ≤ high ∧ ∀ p, low ≤ p → p < high →
      (p < s.bisect accept low high ↔ accept (s.resolve p) = true) := by
  fun_induction s.bisect accept low high with
  | case1 low high hlt middle haccept ih =>
    obtain ⟨hge, hle, hiff⟩ := ih (by omega)
    refine ⟨by omega, hle, fun p hlow hhigh => ?_⟩
    rcases Nat.lt_or_ge middle p with hp | hp
    · exact hiff p hp hhigh
    · -- what is not above the middle passes with it
      exact iff_of_true (by omega) (hdown _ _ (s.resolve_mono hp) haccept)
  | case2 low high hlt middle haccept ih =>
    obtain ⟨hge, hle, hiff⟩ := ih (by omega)
    refine ⟨hge, by omega, fun p hlow hhigh => ?_⟩
    rcases Nat.lt_or_ge p middle with hp | hp
    · exact hiff p hlow hp
    · -- what is not below the middle fails with it
      refine iff_of_false (by omega) fun hpasses => haccept ?_
      exact hdown _ _ (s.resolve_mono hp) hpasses
  | case3 low high hge =>
    exact ⟨le_rfl, h, fun p hlow hhigh => absurd (hlow.trans_lt hhigh) hge⟩

/-- **What a bisection of all positions counts**: those whose values pass. -/
theorem lt_countPositions_iff (s : Slider) (p : Nat) :
    p < s.countPositions accept ↔ p < s.steps ∧ accept (s.resolve p) = true := by
  obtain ⟨-, hle, hiff⟩ := bisect_separates hdown s (Nat.zero_le s.steps)
  rw [countPositions]
  constructor
  · intro hp
    exact ⟨hp.trans_le hle, (hiff p (Nat.zero_le p) (hp.trans_le hle)).1 hp⟩
  · rintro ⟨hp, hpasses⟩
    exact (hiff p (Nat.zero_le p) hp).2 hpasses

end accept

theorem lt_countPositions_le_iff (s : Slider) (v : Int32) (p : Nat) :
    p < s.countPositions (· ≤ v) ↔ p < s.steps ∧ s.resolve p ≤ v := by
  rw [lt_countPositions_iff fun a b hab hb => ?_, decide_eq_true_iff]
  exact decide_eq_true (Int32.le_trans hab (of_decide_eq_true hb))

theorem lt_countPositions_lt_iff (s : Slider) (v : Int32) (p : Nat) :
    p < s.countPositions (· < v) ↔ p < s.steps ∧ s.resolve p < v := by
  rw [lt_countPositions_iff fun a b hab hb => ?_, decide_eq_true_iff]
  exact decide_eq_true (Int32.lt_of_le_of_lt hab (of_decide_eq_true hb))

/-! ### Reached values -/

/-- The value is the one of a position. -/
def Reaches (s : Slider) (v : Int32) : Prop :=
  ∃ p < s.steps, s.resolve p = v

theorem Standing.reaches (h : s.Standing) : s.Reaches s.value :=
  ⟨s.position, h.position_lt, h.value_eq.symm⟩

theorem SameRange.resolve_eq {t : Slider} (h : s.SameRange t) (position : Nat) :
    t.resolve position = s.resolve position :=
  resolve_congr h.map h.continuous h.steps position

theorem SameRange.reaches_iff {t : Slider} (h : s.SameRange t) {v : Int32} :
    t.Reaches v ↔ s.Reaches v := by
  simp only [Reaches, h.resolve_eq, h.steps]

/-! ### Reachable sliders -/

/-- The sliders that a program can come to. -/
inductive Reachable : Slider → Prop where
  | create (id : SliderId) (m : ValueMap) (continuous : Bool) : Reachable (create id m continuous)
  | withSteps {s : Slider} {id : SliderId} {m : ValueMap} {continuous : Bool} {steps : UInt32}
      (h : withSteps id m continuous steps = .ok s) : Reachable s
  | install {s : Slider} (h : Reachable s) (hook : Hook) : Reachable (s.install hook)
  | handle {s : Slider} (h : Reachable s) (e : SliderEvent) : Reachable (s.handle e).slider

/-- A hook changes nothing about the positions. -/
theorem standing_install (h : s.Standing) (hook : Hook) : (s.install hook).Standing := by
  cases hook <;> exact ⟨h.position_lt, h.value_eq⟩

theorem Reachable.standing (h : s.Reachable) : s.Standing := by
  induction h with
  | create id m continuous => exact standing_of_start rfl rfl
  | @withSteps s id m continuous steps h =>
    rw [Slider.withSteps] at h
    split at h
    · cases h
      exact standing_of_start rfl rfl
    · exact absurd h (by simp)
  | install _ hook ih => exact standing_install ih hook
  | handle _ e ih => exact standing_handle ih e

end Slider
end FontPreferences
