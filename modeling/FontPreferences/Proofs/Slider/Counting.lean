import FontPreferences.Proofs.Slider.Machine
import FontPreferences.Proofs.Slider.Search
import Mathlib.Data.Finset.Card
import Mathlib.Logic.Function.Iterate

/-
What the bisection of a slider counts, and in how many rounds.

* `halve s accept bounds`: one round of the bisection, on the two bounds that it keeps;
* `iterate_halve`: bounds that are less than `2 ^ n` apart have met after `n` rounds, at the result of
  the bisection, whatever the test accepts;
* `countPositions_eq_card`: the result is the number of positions whose values pass, if every lower
  value passes with a value;
* `resolve_climbs`: this and what it rests on, the order of the resolved values and their ends.
-/
namespace FontPreferences
namespace Slider

variable {accept : Int32 → Bool}

/-! ### Rounds -/

/-- One round of a bisection.  Bounds that have met stay as they are. -/
def halve (s : Slider) (accept : Int32 → Bool) (bounds : Nat × Nat) : Nat × Nat :=
  if bounds.1 < bounds.2 then
    let middle := bounds.1 + (bounds.2 - bounds.1) / 2
    if accept (s.resolve middle) then (middle + 1, bounds.2) else (bounds.1, middle)
  else bounds

/-- A round leaves the result of the bisection as it is. -/
theorem bisect_halve (s : Slider) (accept : Int32 → Bool) (bounds : Nat × Nat) :
    s.bisect accept (s.halve accept bounds).1 (s.halve accept bounds).2
      = s.bisect accept bounds.1 bounds.2 := by
  by_cases hlt : bounds.1 < bounds.2
  · rw [bisect.eq_def s accept bounds.1 bounds.2, if_pos hlt, halve, if_pos hlt]
    dsimp only
    split <;> rfl
  · rw [halve, if_neg hlt]

/-- A round leaves half the distance between the bounds at most. -/
theorem halve_bounds (s : Slider) (accept : Int32 → Bool) {bounds : Nat × Nat}
    (h : bounds.1 ≤ bounds.2) : (s.halve accept bounds).1 ≤ (s.halve accept bounds).2 ∧
      (s.halve accept bounds).2 - (s.halve accept bounds).1 ≤ (bounds.2 - bounds.1) / 2 := by
  rw [halve]
  split
  · dsimp only
    split
    · dsimp only
      omega
    · dsimp only
      omega
  · omega

/-- **Bounds meet in as many rounds as their distance has bits.** -/
theorem iterate_halve (s : Slider) (accept : Int32 → Bool) (n : Nat) {bounds : Nat × Nat}
    (h : bounds.1 ≤ bounds.2) (hgap : bounds.2 - bounds.1 < 2 ^ n) :
    (s.halve accept)^[n] bounds
      = (s.bisect accept bounds.1 bounds.2, s.bisect accept bounds.1 bounds.2) := by
  induction n generalizing bounds with
  | zero =>
    rw [pow_zero] at hgap
    have heq : bounds.1 = bounds.2 := by omega
    rw [Function.iterate_zero_apply, bisect, if_neg (by omega)]
    exact Prod.ext rfl heq.symm
  | succ n ih =>
    obtain ⟨hle, hhalf⟩ := halve_bounds s accept h
    rw [pow_succ] at hgap
    rw [Function.iterate_succ_apply, ih hle (by omega), bisect_halve]

/-- A slider has no more positions than thirty-two bits can count. -/
theorem iterate_halve_steps (s : Slider) (accept : Int32 → Bool) :
    (s.halve accept)^[32] (0, s.steps)
      = (s.countPositions accept, s.countPositions accept) :=
  iterate_halve s accept 32 (Nat.zero_le s.steps) s.steps_lt

/-! ### The number of positions -/

theorem countPositions_eq_card (s : Slider)
    (hdown : ∀ v w, v ≤ w → accept w = true → accept v = true) : s.countPositions accept
      = ((Finset.range s.steps).filter fun p => accept (s.resolve p) = true).card := by
  -- the positions that pass are those below the result
  have hfilter : (Finset.range s.steps).filter (fun p => accept (s.resolve p) = true)
      = Finset.range (s.countPositions accept) := by
    ext p
    rw [Finset.mem_filter, Finset.mem_range, Finset.mem_range, lt_countPositions_iff hdown]
  rw [hfilter, Finset.card_range]

/-- **The values of a slider climb from one end of the map to the other, and a bisection counts
them.**  Over any map, plain or continuous, and with any number of positions:

* a higher position has no lower value; the first position has the first value of the map, and if
  there are two positions at least, the last one and everything beyond it have the last value;
* for every test that each lower value passes with a value, the bisection ends within thirty-two
  rounds and never leaves the integers of a machine, and it counts the positions whose values pass. -/
theorem resolve_climbs (s : Slider) :
    (∀ p q, p ≤ q → s.resolve p ≤ s.resolve q) ∧
      s.resolve 0 = s.map.first ∧
      (2 ≤ s.steps → ∀ p, s.steps - 1 ≤ p → s.resolve p = s.map.last) ∧
      ∀ accept : Int32 → Bool, (∀ v w, v ≤ w → accept w = true → accept v = true) →
        (s.halve accept)^[32] (0, s.steps)
            = (s.countPositions accept, s.countPositions accept) ∧
          s.countPositions? accept = some (s.countPositions accept) ∧
          s.countPositions accept
            = ((Finset.range s.steps).filter fun p => accept (s.resolve p) = true).card := by
  refine ⟨fun p q => s.resolve_mono, s.resolve_zero, fun h p => resolve_of_lastPosition_le h,
    fun accept hdown => ?_⟩
  exact ⟨iterate_halve_steps s accept, countPositions?_eq s accept,
    countPositions_eq_card s hdown⟩

/-- A map whose range times `3009016989`, divided by `3009016989` again, comes out short of itself. -/
def longRange : ValueMap :=
  ⟨-2147483648, [1783362957], by decide⟩

/-- Over this map the last position is interpolated to less than the last value, which it has
nevertheless; and the positions with a negative value are counted. -/
theorem resolve_climbs_longRange :
    ∃ s, build .fixedSize longRange true (some 3009016990) = .ok s ∧ 2 ≤ s.steps ∧
      s.interpolate 3009016989 = 1783362957 - Binary64.twoPow (-21) ∧
      s.resolve 3009016989 = 1783362957 ∧
      (∀ v w : Int32, v ≤ w → decide (w < 0) = true → decide (v < 0) = true) ∧
      s.countPositions (· < 0)
        = ((Finset.range s.steps).filter fun p => decide (s.resolve p < 0) = true).card := by
  have hbuild : build .fixedSize longRange true (some 3009016990)
      = .ok { create .fixedSize longRange true with
        steps := 3009016990, steps_pos := by decide, steps_lt := by decide } := rfl
  have hdown : ∀ v w : Int32, v ≤ w → decide (w < 0) = true → decide (v < 0) = true :=
    fun v w hvw hw => decide_eq_true (Int32.lt_of_le_of_lt hvw (of_decide_eq_true hw))
  refine ⟨_, hbuild, by decide, by decide +kernel, ?_, hdown, ?_⟩
  · exact (resolve_climbs _).2.2.1 (by decide) _ (by decide)
  · exact ((resolve_climbs _).2.2.2 _ hdown).2.2

end Slider
end FontPreferences
