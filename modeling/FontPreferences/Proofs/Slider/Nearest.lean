import FontPreferences.Proofs.Binary64.Rounding
import FontPreferences.Slider.ValueMap
import Mathlib.Algebra.Order.AbsoluteValue.Basic
import Mathlib.Data.List.TakeWhile

/-
The permitted value nearest to a target.

* `ValueMap.Nearest m target v`: no permitted value is closer to the target than `v`, and none that
  is as close is lower; there is one such value (`Nearest.unique`), and it grows with the target
  (`Nearest.mono`);
* `Neighbours m target lower upper`: the permitted values next to the target on either side;
  `closest_cases`: what `closest` makes of a target beyond an end of the map or between neighbours;
* `Blurred m target lower upper`: the target lies between neighbours whose rounded distances are the
  same although the upper one is closer; `nearest_closest_iff`: for every other target, and for no
  such one, `closest` answers with the nearest value;
* `nearest_closest_of`: so it does where the distance to the lower neighbour needs no rounding, and
  among others for a target that is an integer of thirty-two bits (`nearest_closest_toRat`).

The two neighbours are compared by rounded distances.  Rounding is monotone, so that the comparison
can err in one way only: what looks like a tie goes to the lower neighbour though it is none.
-/
namespace FontPreferences
namespace ValueMap

open Binary64 (Representable)

/-- The permitted value at the least distance to a target, the lower one on a tie. -/
structure Nearest (m : ValueMap) (target : Rat) (v : Int32) : Prop where
  mem : v ∈ m.values
  le : ∀ w ∈ m.values, |toRat v - target| ≤ |toRat w - target|
  tie : ∀ w ∈ m.values, |toRat w - target| = |toRat v - target| → v ≤ w

theorem toRat_le_toRat {v w : Int32} : toRat v ≤ toRat w ↔ v ≤ w := by
  rw [toRat, toRat, Int.cast_le, Int32.le_iff_toInt_le]

theorem toRat_bounds (v : Int32) : -2 ^ 31 ≤ toRat v ∧ toRat v < 2 ^ 31 := by
  rw [toRat]
  exact ⟨by exact_mod_cast v.le_toInt, by exact_mod_cast v.toInt_lt⟩

/-- Two different values are one apart at least. -/
theorem one_le_abs_toRat_sub {v w : Int32} (h : v ≠ w) : 1 ≤ |toRat v - toRat w| := by
  have hne : v.toInt - w.toInt ≠ 0 := sub_ne_zero.2 fun heq => h (Int32.toInt_inj.1 heq)
  rw [toRat, toRat]
  exact_mod_cast Int.one_le_abs hne

/-- A permitted value is nearest to every target within a half of it. -/
theorem nearest_of_abs_sub_lt {m : ValueMap} {target : Rat} {v : Int32} (hv : v ∈ m.values)
    (h : |toRat v - target| < 1 / 2) : m.Nearest target v := by
  have hother : ∀ w : Int32, w ≠ v → |toRat v - target| < |toRat w - target| := by
    intro w hne
    have hgap := one_le_abs_toRat_sub hne
    have htriangle := abs_sub_le (toRat w) target (toRat v)
    rw [abs_sub_comm target] at htriangle
    linarith
  refine ⟨hv, fun w _ => ?_, fun w _ heq => ?_⟩
  · by_cases hne : w = v
    · rw [hne]
    · exact (hother w hne).le
  · by_cases hne : w = v
    · rw [hne]
      exact Int32.le_refl v
    · exact absurd heq (hother w hne).ne'

/-- A permitted value is nearest to itself. -/
theorem nearest_self {m : ValueMap} {v : Int32} (h : v ∈ m.values) : m.Nearest (toRat v) v :=
  nearest_of_abs_sub_lt h (by rw [sub_self, abs_zero]; exact one_half_pos)

/-- There is one nearest value only. -/
theorem Nearest.unique {m : ValueMap} {target : Rat} {v w : Int32} (hv : m.Nearest target v)
    (hw : m.Nearest target w) : v = w := by
  have heq : |toRat v - target| = |toRat w - target| :=
    le_antisymm (hv.le w hw.mem) (hw.le v hv.mem)
  exact Int32.le_antisymm (hv.tie w hw.mem heq.symm) (hw.tie v hv.mem heq)

/-- A greater target has no lower nearest value. -/
theorem Nearest.mono {m : ValueMap} {target target' : Rat} {v v' : Int32}
    (hv : m.Nearest target v) (hv' : m.Nearest target' v') (h : target ≤ target') : v ≤ v' := by
  by_contra hlt
  rw [← toRat_le_toRat, not_le] at hlt
  have hlow := Binary64.add_le_of_abs_sub_le hlt (hv.le v' hv'.mem)
  have hhigh := Binary64.le_add_of_abs_sub_le hlt (hv'.le v hv.mem)
  have heq : target = target' := by linarith
  rw [hv.unique (heq ▸ hv')] at hlt
  exact absurd hlt (lt_irrefl _)

/-! ### The ends of the map -/

theorem getLast?_values (m : ValueMap) : m.values.getLast? = some m.last :=
  List.getLast?_eq_some_getLast _

theorem first_mem (m : ValueMap) : m.first ∈ m.values :=
  List.mem_cons_self

theorem last_mem (m : ValueMap) : m.last ∈ m.values :=
  List.getLast_mem _

theorem first_le {m : ValueMap} {v : Int32} (h : v ∈ m.values) : m.first ≤ v := by
  rcases List.mem_cons.1 h with rfl | h
  · exact Int32.le_refl _
  · exact Int32.le_of_lt (List.rel_of_pairwise_cons m.ascending h)

theorem le_last {m : ValueMap} {v : Int32} (h : v ∈ m.values) : v ≤ m.last := by
  obtain ⟨front, hfront⟩ := List.getLast?_eq_some_iff.1 (getLast?_values m)
  have hsorted : m.values.Pairwise (· < ·) := m.ascending
  rw [hfront] at h hsorted
  rcases List.mem_append.1 h with h | h
  · exact Int32.le_of_lt ((List.pairwise_append.1 hsorted).2.2 v h m.last (by simp))
  · rw [List.mem_singleton.1 h]
    exact Int32.le_refl _

/-! ### Below and above the target -/

section split

variable {m : ValueMap} {target : Rat}

theorem mem_values_iff {w : Int32} : w ∈ m.values ↔
    w ∈ m.values.takeWhile (fun v => toRat v < target) ∨
      w ∈ m.values.dropWhile (fun v => toRat v < target) := by
  rw [← List.mem_append, List.takeWhile_append_dropWhile]

theorem lt_of_mem_below {w : Int32} (h : w ∈ m.values.takeWhile fun v => toRat v < target) :
    toRat w < target := by
  simpa using List.mem_takeWhile_imp h

/-- The last value below the target is the greatest one below it. -/
theorem le_of_getLast?_below {w lower : Int32}
    (hlast : (m.values.takeWhile fun v => toRat v < target).getLast? = some lower)
    (h : w ∈ m.values.takeWhile fun v => toRat v < target) : w ≤ lower := by
  obtain ⟨front, hfront⟩ := List.getLast?_eq_some_iff.1 hlast
  have hsorted : (m.values.takeWhile fun v => toRat v < target).Pairwise (· < ·) :=
    List.Pairwise.sublist (List.takeWhile_sublist _) m.ascending
  rw [hfront] at h hsorted
  rcases List.mem_append.1 h with h | h
  · have hlt := (List.pairwise_append.1 hsorted).2.2 w h lower (List.mem_singleton_self _)
    exact Int32.le_of_lt hlt
  · rw [List.mem_singleton.1 h]
    exact Int32.le_refl _

/-- The first value that is not below the target is the least of those. -/
theorem le_of_head?_above {w upper : Int32}
    (hhead : (m.values.dropWhile fun v => toRat v < target).head? = some upper)
    (h : w ∈ m.values.dropWhile fun v => toRat v < target) : upper ≤ w := by
  obtain ⟨rest, hrest⟩ := List.head?_eq_some_iff.1 hhead
  have hsorted : (m.values.dropWhile fun v => toRat v < target).Pairwise (· < ·) :=
    List.Pairwise.sublist (List.dropWhile_sublist _) m.ascending
  rw [hrest] at h hsorted
  rcases List.mem_cons.1 h with rfl | h
  · exact Int32.le_refl _
  · exact Int32.le_of_lt (List.rel_of_pairwise_cons hsorted h)

theorem le_head?_above {upper : Int32}
    (hhead : (m.values.dropWhile fun v => toRat v < target).head? = some upper) :
    target ≤ toRat upper := by
  have := List.head?_dropWhile_not (fun v => decide (toRat v < target)) m.values
  rw [hhead] at this
  simpa using this

end split

/-! ### The candidates -/

section candidates

variable {m : ValueMap} {target : Rat} {v lower upper : Int32}

theorem abs_toRat_sub_of_lt (h : toRat v < target) : |toRat v - target| = target - toRat v := by
  rw [abs_of_neg (by linarith), neg_sub]

theorem abs_toRat_sub_of_le (h : target ≤ toRat v) : |toRat v - target| = toRat v - target :=
  abs_of_nonneg (by linarith)

/-- With no value below the target the first one is nearest. -/
theorem nearest_first (htarget : target ≤ toRat m.first) : m.Nearest target m.first := by
  refine ⟨m.first_mem, fun w hw => ?_, fun w hw _ => first_le hw⟩
  have hvw := toRat_le_toRat.2 (first_le hw)
  rw [abs_toRat_sub_of_le htarget, abs_toRat_sub_of_le (by linarith)]
  linarith

/-- With every value below the target the last one is nearest. -/
theorem nearest_last (htarget : toRat m.last < target) : m.Nearest target m.last := by
  refine ⟨m.last_mem, fun w hw => ?_, fun w hw heq => ?_⟩
  · have hwv := toRat_le_toRat.2 (le_last hw)
    rw [abs_toRat_sub_of_lt htarget, abs_toRat_sub_of_lt (by linarith)]
    linarith
  · have hwv := toRat_le_toRat.2 (le_last hw)
    rw [abs_toRat_sub_of_lt htarget, abs_toRat_sub_of_lt (by linarith)] at heq
    exact toRat_le_toRat.1 (by linarith)

/-- The permitted values next to a target: the last one below it, and the first one that is not. -/
structure Neighbours (m : ValueMap) (target : Rat) (lower upper : Int32) : Prop where
  lower_mem : lower ∈ m.values
  upper_mem : upper ∈ m.values
  lower_lt : toRat lower < target
  le_upper : target ≤ toRat upper
  split : ∀ w ∈ m.values, w ≤ lower ∨ upper ≤ w

/-- A target has one pair of neighbours only. -/
theorem Neighbours.unique {lower' upper' : Int32} (h : m.Neighbours target lower upper)
    (h' : m.Neighbours target lower' upper') : lower' = lower ∧ upper' = upper := by
  have hlt := h.lower_lt
  have hge := h.le_upper
  have hlt' := h'.lower_lt
  have hge' := h'.le_upper
  constructor
  · refine Int32.le_antisymm ?_ ?_
    · refine (h.split lower' h'.lower_mem).resolve_right fun hle => ?_
      linarith [toRat_le_toRat.2 hle]
    · refine (h'.split lower h.lower_mem).resolve_right fun hle => ?_
      linarith [toRat_le_toRat.2 hle]
  · refine Int32.le_antisymm ?_ ?_
    · refine (h'.split upper h.upper_mem).resolve_left fun hle => ?_
      linarith [toRat_le_toRat.2 hle]
    · refine (h.split upper' h'.upper_mem).resolve_left fun hle => ?_
      linarith [toRat_le_toRat.2 hle]

/-- Between its two neighbours the target is nearest to the lower one, unless the upper one is
strictly closer. -/
theorem Neighbours.nearest (h : m.Neighbours target lower upper) :
    m.Nearest target
      (if target - toRat lower ≤ toRat upper - target then lower else upper) := by
  obtain ⟨hlower, hupper, hlt, hge, hsplit⟩ := h
  -- on its side of the target each value is at least as far away as the neighbour on that side
  have hdist : ∀ w ∈ m.values, (w ≤ lower ∧ |toRat w - target| = target - toRat w
      ∧ toRat w ≤ toRat lower) ∨ (upper ≤ w ∧ |toRat w - target| = toRat w - target
      ∧ toRat upper ≤ toRat w) := by
    intro w hw
    rcases hsplit w hw with h | h
    · have hwl := toRat_le_toRat.2 h
      exact .inl ⟨h, abs_toRat_sub_of_lt (by linarith), hwl⟩
    · have huw := toRat_le_toRat.2 h
      exact .inr ⟨h, abs_toRat_sub_of_le (by linarith), huw⟩
  by_cases hcloser : target - toRat lower ≤ toRat upper - target
  · rw [if_pos hcloser]
    refine ⟨hlower, fun w hw => ?_, fun w hw heq => ?_⟩
    · rw [abs_toRat_sub_of_lt hlt]
      rcases hdist w hw with ⟨-, hw, hle⟩ | ⟨-, hw, hle⟩ <;> rw [hw] <;> linarith
    · rw [abs_toRat_sub_of_lt hlt] at heq
      rcases hdist w hw with ⟨-, hw, hle⟩ | ⟨-, hw, hle⟩ <;> rw [hw] at heq
      · exact toRat_le_toRat.1 (by linarith)
      · exact toRat_le_toRat.1 (by linarith)
  · rw [if_neg hcloser]
    rw [not_le] at hcloser
    refine ⟨hupper, fun w hw => ?_, fun w hw heq => ?_⟩
    · rw [abs_toRat_sub_of_le hge]
      rcases hdist w hw with ⟨-, hw, hle⟩ | ⟨-, hw, hle⟩ <;> rw [hw] <;> linarith
    · rw [abs_toRat_sub_of_le hge] at heq
      rcases hdist w hw with ⟨-, hw, hle⟩ | ⟨hle, -, -⟩
      · rw [hw] at heq
        exact absurd heq (by linarith)
      · exact hle

/-! ### What is answered -/

/-- What `closest` makes of a target beyond an end of the map, and of one between neighbours. -/
theorem closest_cases (m : ValueMap) (target : Rat) :
    (target ≤ toRat m.first ∧ m.closest target = m.first) ∨
      (toRat m.last < target ∧ m.closest target = m.last) ∨
      ∃ lower upper, m.Neighbours target lower upper ∧ m.closest target
        = if Binary64.nearest (target - toRat lower) ≤ Binary64.nearest (toRat upper - target)
          then lower else upper := by
  have happend := List.takeWhile_append_dropWhile (p := fun v => decide (toRat v < target))
    (l := m.values)
  rw [closest]
  cases hlast : (m.values.takeWhile fun v => toRat v < target).getLast? with
  | none =>
    -- nothing lies below the target
    rw [List.getLast?_eq_none_iff] at hlast
    rw [hlast, List.nil_append] at happend
    have hhead : (m.values.dropWhile fun v => toRat v < target).head? = some m.first := by
      rw [happend]
      rfl
    exact .inl ⟨le_head?_above hhead, rfl⟩
  | some lower =>
    have hlower := List.mem_of_getLast? hlast
    cases hhead : (m.values.dropWhile fun v => toRat v < target).head? with
    | none =>
      -- nothing lies above the target, and the last value below it is the last of all
      rw [List.head?_eq_none_iff] at hhead
      rw [hhead, List.append_nil] at happend
      rw [happend, getLast?_values, Option.some_inj] at hlast
      exact .inr (.inl ⟨hlast ▸ lt_of_mem_below hlower, rfl⟩)
    | some upper =>
      have hupper := List.mem_of_head? hhead
      refine .inr (.inr ⟨lower, upper, ⟨mem_values_iff.2 (.inl hlower),
        mem_values_iff.2 (.inr hupper), lt_of_mem_below hlower, le_head?_above hhead,
        fun w hw => ?_⟩, rfl⟩)
      rcases mem_values_iff.1 hw with h | h
      · exact .inl (le_of_getLast?_below hlast h)
      · exact .inr (le_of_head?_above hhead h)

/-- Whatever the target, the answer is a permitted value. -/
theorem closest_mem (m : ValueMap) (target : Rat) : m.closest target ∈ m.values := by
  rcases m.closest_cases target with ⟨-, heq⟩ | ⟨-, heq⟩ | ⟨lower, upper, h, heq⟩
  · rw [heq]
    exact m.first_mem
  · rw [heq]
    exact m.last_mem
  · rw [heq]
    split
    · exact h.lower_mem
    · exact h.upper_mem

theorem Neighbours.closest_eq (h : m.Neighbours target lower upper) : m.closest target
    = if Binary64.nearest (target - toRat lower) ≤ Binary64.nearest (toRat upper - target)
      then lower else upper := by
  have hlt := h.lower_lt
  have hge := h.le_upper
  rcases m.closest_cases target with ⟨hle, -⟩ | ⟨hlast, -⟩ | ⟨lower', upper', h', heq⟩
  · linarith [toRat_le_toRat.2 (first_le h.lower_mem)]
  · linarith [toRat_le_toRat.2 (le_last h.upper_mem)]
  · obtain ⟨rfl, rfl⟩ := h.unique h'
    exact heq

/-! ### Blurred targets -/

/-- Between its neighbours the target is closer to the upper one, but the two distances are rounded
to the same number. -/
structure Blurred (m : ValueMap) (target : Rat) (lower upper : Int32) : Prop
    extends m.Neighbours target lower upper where
  closer : toRat upper - target < target - toRat lower
  rounded : Binary64.nearest (target - toRat lower) = Binary64.nearest (toRat upper - target)

theorem Blurred.closest_eq (h : m.Blurred target lower upper) : m.closest target = lower := by
  rw [h.toNeighbours.closest_eq, if_pos h.rounded.le]

theorem Blurred.nearest_upper (h : m.Blurred target lower upper) : m.Nearest target upper := by
  have hnearest := h.toNeighbours.nearest
  rwa [if_neg (not_le.2 h.closer)] at hnearest

/-- Where the target is not blurred, the rounded distances compare as the exact ones do. -/
theorem Neighbours.rounded_le_iff (h : m.Neighbours target lower upper)
    (hsharp : ¬ m.Blurred target lower upper) :
    Binary64.nearest (target - toRat lower) ≤ Binary64.nearest (toRat upper - target) ↔
      target - toRat lower ≤ toRat upper - target := by
  refine ⟨fun hrounded => ?_, Binary64.nearest_mono⟩
  by_contra hcloser
  rw [not_le] at hcloser
  exact hsharp ⟨h, hcloser, le_antisymm hrounded (Binary64.nearest_mono hcloser.le)⟩

/-- **`closest` answers with the nearest value for all targets but the blurred ones.** -/
theorem nearest_closest_iff (m : ValueMap) (target : Rat) :
    m.Nearest target (m.closest target) ↔ ¬ ∃ lower upper, m.Blurred target lower upper := by
  constructor
  · rintro hnearest ⟨lower, upper, h⟩
    rw [h.closest_eq] at hnearest
    obtain rfl := hnearest.unique h.nearest_upper
    linarith [h.lower_lt, h.le_upper]
  · intro hsharp
    rcases m.closest_cases target with ⟨hle, heq⟩ | ⟨hlt, heq⟩ | ⟨lower, upper, h, heq⟩
    · rw [heq]
      exact nearest_first hle
    · rw [heq]
      exact nearest_last hlt
    · have hiff := h.rounded_le_iff fun hblurred => hsharp ⟨lower, upper, hblurred⟩
      simp only [heq, hiff]
      exact h.nearest

/-- Half the gap between two values is a number of the format. -/
theorem representable_half_gap (lower upper : Int32) :
    Representable ((toRat upper - toRat lower) / 2) := by
  have := lower.toInt_lt
  have := lower.le_toInt
  have := upper.toInt_lt
  have := upper.le_toInt
  rw [toRat, toRat, ← Int.cast_sub]
  exact Binary64.representable_half (abs_le.2 ⟨by omega, by omega⟩)

/-- Both distances of a blurred target are rounded to half the gap, which lies between them. -/
theorem Blurred.nearest_sub_lower (h : m.Blurred target lower upper) :
    Binary64.nearest (target - toRat lower) = (toRat upper - toRat lower) / 2 := by
  have hcloser := h.closer
  refine le_antisymm ?_ ?_
  · rw [h.rounded]
    exact (representable_half_gap lower upper).nearest_le (by linarith)
  · exact (representable_half_gap lower upper).le_nearest (by linarith)

/-- No distance of a blurred target is a number of the format, or the target would be the middle of
its neighbours. -/
theorem Blurred.not_representable (h : m.Blurred target lower upper) :
    ¬ Representable (target - toRat lower) ∧ ¬ Representable (toRat upper - target) := by
  have hcloser := h.closer
  have hhalf := h.nearest_sub_lower
  constructor
  · intro hexact
    rw [hexact.nearest_eq] at hhalf
    linarith
  · intro hexact
    rw [h.rounded, hexact.nearest_eq] at hhalf
    linarith

/-- **`closest` answers with the nearest value** where the distance to the lower neighbour is a
number of the format. -/
theorem nearest_closest_of (hexact : ∀ lower upper, m.Neighbours target lower upper →
    Representable (target - toRat lower)) : m.Nearest target (m.closest target) := by
  rw [nearest_closest_iff]
  rintro ⟨lower, upper, h⟩
  exact h.not_representable.1 (hexact lower upper h.toNeighbours)

/-- **The closest value to an integer of thirty-two bits is the nearest one.** -/
theorem nearest_closest_toRat (m : ValueMap) (n : Int32) :
    m.Nearest (toRat n) (m.closest (toRat n)) := by
  refine nearest_closest_of fun lower _ _ => ?_
  have := lower.toInt_lt
  have := lower.le_toInt
  have := n.toInt_lt
  have := n.le_toInt
  rw [toRat, toRat, ← Int.cast_sub]
  exact Binary64.representable_intCast (abs_le.2 ⟨by omega, by omega⟩)

end candidates

end ValueMap
end FontPreferences
