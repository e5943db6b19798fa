import FontPreferences.Binary64
import Mathlib.Algebra.Order.Field.Power
import Mathlib.Data.Rat.Floor
import Mathlib.Tactic.Linarith
import Mathlib.Tactic.Positivity

/-
What rounding to the format leaves of a number.

* `OnGrid e x`: `x` is a multiple of `2 ^ e`; `Representable x`: `x` is a number of the format;
* `Representable.le_nearest`, `Representable.nearest_le`: rounding does not carry a number past a
  number of the format, and so leaves each number of the format as it is (`Representable.nearest_eq`),
  among them every integer of at most fifty-three bits (`nearest_intCast`) and everything that was
  rounded before (`representable_nearest`);
* `abs_nearest_sub_le`: rounding moves a number by half the spacing around it at most;
* `Representable.abs_nearest_sub_le`: no number of the format is closer, which makes rounding monotone
  (`nearest_mono`);
* `Representable.sub_intCast`: the distance from a number of the format to an integer is another one,
  unless zero is nearer;
* `exists_unit_nearest_add`: what an integer and a number of the format add up to, rounded, is so far
  from the integer as a number of the format is, in a unit that divides one;
* `representable_of_ofBits`: the interchange form holds numbers of the format only.

A number is rounded on the grid of its own unit, `unitExponent`.  Another number of the format need
not be on this grid; but then the leading bit of the rounded number, which is on it, lies between the
two (`Representable.exists_onGrid`).
-/
namespace FontPreferences
namespace Binary64

/-! ### Powers of two -/

theorem twoPow_eq_zpow (e : Int) : twoPow e = (2 : Rat) ^ e := by
  cases e with
  | ofNat n =>
    show ((Nat.pow 2 n : Nat) : Rat) = (2 : Rat) ^ (n : Int)
    rw [zpow_natCast, Nat.pow_eq, Nat.cast_pow, Nat.cast_ofNat]
  | negSucc n =>
    show 1 / ((Nat.pow 2 (n + 1) : Nat) : Rat) = (2 : Rat) ^ Int.negSucc n
    rw [zpow_negSucc, Nat.pow_eq, Nat.cast_pow, Nat.cast_ofNat, one_div]

theorem twoPow_pos (e : Int) : 0 < twoPow e := by
  rw [twoPow_eq_zpow]
  positivity

theorem twoPow_add (a b : Int) : twoPow (a + b) = twoPow a * twoPow b := by
  rw [twoPow_eq_zpow, twoPow_eq_zpow, twoPow_eq_zpow, zpow_add₀ two_ne_zero]

theorem twoPow_succ (e : Int) : twoPow (e + 1) = twoPow e * 2 := by
  rw [twoPow_add, twoPow_eq_zpow 1, zpow_one]

theorem twoPow_neg_fiftyTwo : twoPow (-52) = twoPow (-53) * 2 := by
  rw [← twoPow_succ]
  norm_num

theorem twoPow_natCast (n : Nat) : twoPow n = 2 ^ n := by
  rw [twoPow_eq_zpow, zpow_natCast]

theorem twoPow_le_twoPow {a b : Int} : twoPow a ≤ twoPow b ↔ a ≤ b := by
  rw [twoPow_eq_zpow, twoPow_eq_zpow, zpow_le_zpow_iff_right₀ one_lt_two]

theorem twoPow_lt_twoPow {a b : Int} : twoPow a < twoPow b ↔ a < b := by
  rw [twoPow_eq_zpow, twoPow_eq_zpow, zpow_lt_zpow_iff_right₀ one_lt_two]

/-! ### Grids -/

/-- The multiples of `2 ^ e`. -/
def OnGrid (e : Int) (x : Rat) : Prop :=
  ∃ n : Int, x = n * twoPow e

theorem OnGrid.sub {e : Int} {x y : Rat} (hx : OnGrid e x) (hy : OnGrid e y) : OnGrid e (x - y) := by
  obtain ⟨m, rfl⟩ := hx
  obtain ⟨n, rfl⟩ := hy
  exact ⟨m - n, by push_cast; ring⟩

theorem OnGrid.add {e : Int} {x y : Rat} (hx : OnGrid e x) (hy : OnGrid e y) : OnGrid e (x + y) := by
  obtain ⟨m, rfl⟩ := hx
  obtain ⟨n, rfl⟩ := hy
  exact ⟨m + n, by push_cast; ring⟩

theorem OnGrid.neg {e : Int} {x : Rat} (hx : OnGrid e x) : OnGrid e (-x) := by
  obtain ⟨n, rfl⟩ := hx
  exact ⟨-n, by push_cast; ring⟩

/-- A finer grid has every point of a coarser one. -/
theorem OnGrid.mono {a b : Int} (h : a ≤ b) {x : Rat} (hx : OnGrid b x) : OnGrid a x := by
  obtain ⟨n, rfl⟩ := hx
  obtain ⟨k, hk⟩ := Int.le.dest h
  refine ⟨n * 2 ^ k, ?_⟩
  rw [← hk, add_comm, twoPow_add, twoPow_natCast]
  push_cast
  ring

theorem onGrid_twoPow {a b : Int} (h : a ≤ b) : OnGrid a (twoPow b) :=
  OnGrid.mono h ⟨1, by rw [Int.cast_one, one_mul]⟩

/-- An integer is on every grid that divides one. -/
theorem onGrid_intCast {e : Int} (h : e ≤ 0) (n : Int) : OnGrid e n := by
  refine OnGrid.mono h ⟨n, ?_⟩
  rw [twoPow_eq_zpow, zpow_zero, mul_one]

/-- Two different points of a grid are a unit apart at least. -/
theorem OnGrid.add_twoPow_le {e : Int} {x y : Rat} (hx : OnGrid e x) (hy : OnGrid e y) (h : x < y) :
    x + twoPow e ≤ y := by
  obtain ⟨m, rfl⟩ := hx
  obtain ⟨n, rfl⟩ := hy
  have hlt : m + 1 ≤ n := by exact_mod_cast lt_of_mul_lt_mul_right h (twoPow_pos e).le
  calc (m : Rat) * twoPow e + twoPow e = ((m + 1 : Int) : Rat) * twoPow e := by push_cast; ring
    _ ≤ n * twoPow e := mul_le_mul_of_nonneg_right (by exact_mod_cast hlt) (twoPow_pos e).le

/-- The numbers of the format, with no upper limit on their size: fifty-three significant bits over
a unit that is `2 ^ -1074` at least. -/
def Representable (x : Rat) : Prop :=
  ∃ e : Int, -1074 ≤ e ∧ OnGrid e x ∧ |x| ≤ twoPow (e + 53)

theorem Representable.neg {x : Rat} (h : Representable x) : Representable (-x) := by
  obtain ⟨e, he, hgrid, hsize⟩ := h
  exact ⟨e, he, hgrid.neg, by rwa [abs_neg]⟩

/-- An integer of fifty-three bits in a unit of the format. -/
theorem representable_mul_twoPow {n e : Int} (he : -1074 ≤ e) (hn : |n| ≤ 2 ^ 53) :
    Representable (n * twoPow e) := by
  have hsize : |(n : Rat)| ≤ twoPow (53 : Nat) := by
    rw [twoPow_natCast]
    exact_mod_cast hn
  refine ⟨e, he, ⟨n, rfl⟩, ?_⟩
  rw [abs_mul, abs_of_pos (twoPow_pos e), add_comm, twoPow_add]
  exact mul_le_mul_of_nonneg_right hsize (twoPow_pos e).le

theorem representable_intCast {n : Int} (h : |n| ≤ 2 ^ 53) : Representable n := by
  have := representable_mul_twoPow (e := 0) (by omega) h
  rwa [twoPow_eq_zpow, zpow_zero, mul_one] at this

theorem representable_natCast {n : Nat} (h : n ≤ 2 ^ 53) : Representable n := by
  have := representable_intCast (n := n) (abs_le.2 ⟨by omega, by omega⟩)
  rwa [Int.cast_natCast] at this

theorem representable_half {n : Int} (h : |n| ≤ 2 ^ 53) : Representable ((n : Rat) / 2) := by
  have := representable_mul_twoPow (e := -1) (by omega) h
  rwa [twoPow_eq_zpow, zpow_neg_one, ← div_eq_mul_inv] at this

theorem representable_zero : Representable 0 :=
  ⟨0, by omega, ⟨0, by simp⟩, by rw [abs_zero]; exact (twoPow_pos _).le⟩

theorem representable_one : Representable 1 := by
  have := representable_intCast (n := 1) (by norm_num)
  rwa [Int.cast_one] at this

/-! ### The exponent and the spacing -/

theorem ratAbs_eq (q : Rat) : q.abs = |q| := by
  rw [Rat.abs]
  split
  · next h => exact (abs_of_nonneg h).symm
  · next h => exact (abs_of_neg (not_le.1 h)).symm

theorem twoPow_log2_le {n : Nat} (h : n ≠ 0) : twoPow n.log2 ≤ n := by
  rw [twoPow_natCast]
  exact_mod_cast Nat.log2_self_le h

theorem lt_twoPow_log2_add_one (n : Nat) : (n : Rat) < twoPow (n.log2 + 1) := by
  rw [← Nat.cast_succ, twoPow_natCast]
  exact_mod_cast Nat.lt_log2_self (n := n)

/-- The exponent of a number is the one of its leading bit. -/
theorem twoPow_exponent_le {q : Rat} (hq : q ≠ 0) :
    twoPow (exponent q) ≤ |q| ∧ |q| < twoPow (exponent q + 1) := by
  have hnum : q.num.natAbs ≠ 0 := by simpa using hq
  have hpos : (0 : Rat) < q.den := by exact_mod_cast q.den_pos
  have habs : |q| = (q.num.natAbs : Rat) / q.den := by
    rw [← Rat.num_div_den |q|]
    simp
  -- between them the leading bits of numerator and denominator leave two candidates
  have hlow : twoPow ((q.num.natAbs.log2 : Int) - q.den.log2 - 1) ≤ |q| := by
    rw [habs, le_div_iff₀ hpos]
    calc twoPow ((q.num.natAbs.log2 : Int) - q.den.log2 - 1) * q.den
        ≤ twoPow ((q.num.natAbs.log2 : Int) - q.den.log2 - 1) * twoPow (q.den.log2 + 1) :=
          mul_le_mul_of_nonneg_left (lt_twoPow_log2_add_one _).le (twoPow_pos _).le
      _ = twoPow q.num.natAbs.log2 := by rw [← twoPow_add]; congr 1; omega
      _ ≤ q.num.natAbs := twoPow_log2_le hnum
  have hhigh : |q| < twoPow ((q.num.natAbs.log2 : Int) - q.den.log2 + 1) := by
    rw [habs, div_lt_iff₀ hpos]
    calc (q.num.natAbs : Rat) < twoPow (q.num.natAbs.log2 + 1) := lt_twoPow_log2_add_one _
      _ = twoPow ((q.num.natAbs.log2 : Int) - q.den.log2 + 1) * twoPow q.den.log2 := by
          rw [← twoPow_add]; congr 1; omega
      _ ≤ twoPow ((q.num.natAbs.log2 : Int) - q.den.log2 + 1) * q.den :=
          mul_le_mul_of_nonneg_left (twoPow_log2_le q.den_ne_zero) (twoPow_pos _).le
  rw [exponent, ratAbs_eq]
  split
  · next h => exact ⟨h, hhigh⟩
  · next h => exact ⟨hlow, by simpa using not_le.1 h⟩

theorem exponent_neg (q : Rat) : exponent (-q) = exponent q := by
  rw [exponent, exponent, ratAbs_eq, ratAbs_eq, abs_neg, Rat.neg_num, Rat.neg_den, Int.natAbs_neg]

/-- The exponent of the unit in which `q` is rounded. -/
def unitExponent (q : Rat) : Int :=
  max (exponent q) (-1022) - 52

theorem spacing_eq (q : Rat) : spacing q = twoPow (unitExponent q) := rfl

theorem spacing_pos (q : Rat) : 0 < spacing q :=
  twoPow_pos _

theorem unitExponent_neg (q : Rat) : unitExponent (-q) = unitExponent q := by
  rw [unitExponent, exponent_neg, unitExponent]

theorem le_unitExponent (q : Rat) : -1074 ≤ unitExponent q := by
  rw [unitExponent]
  omega

theorem abs_lt_twoPow_unitExponent (q : Rat) : |q| < twoPow (unitExponent q + 53) := by
  by_cases hq : q = 0
  · rw [hq, abs_zero]
    exact twoPow_pos _
  · refine (twoPow_exponent_le hq).2.trans_le (twoPow_le_twoPow.2 ?_)
    rw [unitExponent]
    omega

/-- Numbers of fifty-three bits before the point are rounded in a unit that divides one. -/
theorem unitExponent_nonpos {q : Rat} (h : |q| < 2 ^ 53) : unitExponent q ≤ 0 := by
  by_cases hq : q = 0
  · rw [hq]
    decide
  · rw [← twoPow_natCast] at h
    have := twoPow_lt_twoPow.1 ((twoPow_exponent_le hq).1.trans_lt h)
    rw [unitExponent]
    omega

theorem spacing_le_of_one_le {q : Rat} (h : 1 ≤ |q|) : spacing q ≤ |q| * twoPow (-52) := by
  have hq : q ≠ 0 := fun h0 => by
    rw [h0, abs_zero] at h
    exact absurd h (by norm_num)
  have hbits := twoPow_exponent_le hq
  have hnonneg : 0 ≤ exponent q := by
    have hone : twoPow 0 < twoPow (exponent q + 1) := by
      rw [twoPow_eq_zpow 0, zpow_zero]
      exact h.trans_lt hbits.2
    have := twoPow_lt_twoPow.1 hone
    omega
  have hunit : unitExponent q = exponent q + -52 := by
    rw [unitExponent]
    omega
  rw [spacing_eq, hunit, twoPow_add]
  exact mul_le_mul_of_nonneg_right hbits.1 (twoPow_pos _).le

/-! ### Rounding to an integer -/

/-- Rounding does not carry a number past an integer. -/
theorem le_roundHalfEven {q : Rat} {n : Int} (h : (n : Rat) ≤ q) : n ≤ roundHalfEven q := by
  have hfloor : n ≤ q.floor := Rat.le_floor_iff.2 h
  rw [roundHalfEven]
  split_ifs <;> omega

theorem roundHalfEven_le {q : Rat} {n : Int} (h : q ≤ n) : roundHalfEven q ≤ n := by
  rcases eq_or_lt_of_le (Rat.floor_le q) with heq | hlt
  · -- an integer stays
    have hle : q.floor ≤ n := by exact_mod_cast heq.trans_le h
    rw [roundHalfEven, if_pos (by rw [heq]; norm_num)]
    exact hle
  · have hle : q.floor < n := by exact_mod_cast hlt.trans_le h
    rw [roundHalfEven]
    split_ifs <;> omega

/-- Rounding to an integer moves a number by a half at most. -/
theorem abs_roundHalfEven_sub_le (q : Rat) : |(roundHalfEven q : Rat) - q| ≤ 1 / 2 := by
  have hlow : (q.floor : Rat) ≤ q := Rat.floor_le q
  have hhigh : q < (q.floor : Rat) + 1 := by exact_mod_cast Rat.lt_floor_add_one q
  rw [roundHalfEven, abs_le]
  split_ifs <;> push_cast <;> constructor <;> linarith

/-! ### Rounding to the format -/

theorem nearest_eq (q : Rat) : nearest q = roundHalfEven (q / spacing q) * spacing q := by
  rw [nearest]
  split
  · next h =>
    have hzero : roundHalfEven 0 = 0 :=
      le_antisymm (roundHalfEven_le (by norm_num)) (le_roundHalfEven (by norm_num))
    rw [h, zero_div, hzero, Int.cast_zero, zero_mul]
  · rfl

theorem onGrid_nearest (q : Rat) : OnGrid (unitExponent q) (nearest q) :=
  ⟨_, nearest_eq q⟩

/-- Rounding does not carry a number past a point of its own grid. -/
theorem OnGrid.le_nearest {x q : Rat} (hx : OnGrid (unitExponent q) x) (h : x ≤ q) :
    x ≤ nearest q := by
  obtain ⟨n, rfl⟩ := hx
  have hround : n ≤ roundHalfEven (q / spacing q) :=
    le_roundHalfEven ((le_div_iff₀ (spacing_pos q)).2 h)
  rw [nearest_eq, ← spacing_eq]
  exact mul_le_mul_of_nonneg_right (by exact_mod_cast hround) (spacing_pos q).le

theorem OnGrid.nearest_le {x q : Rat} (hx : OnGrid (unitExponent q) x) (h : q ≤ x) :
    nearest q ≤ x := by
  obtain ⟨n, rfl⟩ := hx
  have hround : roundHalfEven (q / spacing q) ≤ n :=
    roundHalfEven_le ((div_le_iff₀ (spacing_pos q)).2 h)
  rw [nearest_eq, ← spacing_eq]
  exact mul_le_mul_of_nonneg_right (by exact_mod_cast hround) (spacing_pos q).le

/-- A point of its own grid is not rounded. -/
theorem OnGrid.nearest_eq_self {q : Rat} (h : OnGrid (unitExponent q) q) : nearest q = q :=
  le_antisymm (h.nearest_le le_rfl) (h.le_nearest le_rfl)

/-- Rounding moves a number by half the spacing at most. -/
theorem abs_nearest_sub_le (q : Rat) : |nearest q - q| ≤ spacing q / 2 := by
  have hpos := spacing_pos q
  have hscaled := abs_roundHalfEven_sub_le (q / spacing q)
  have hsub : nearest q - q = (roundHalfEven (q / spacing q) - q / spacing q) * spacing q := by
    rw [nearest_eq, sub_mul, div_mul_cancel₀ _ hpos.ne']
  rw [hsub, abs_mul, abs_of_pos hpos]
  linarith [mul_le_mul_of_nonneg_right hscaled hpos.le]

/-- From one on, and at zero, rounding moves a number by a part in `2 ^ 53` at most. -/
theorem abs_nearest_sub_le_mul {q : Rat} (h : q = 0 ∨ 1 ≤ |q|) :
    |nearest q - q| ≤ |q| * twoPow (-53) := by
  rcases h with rfl | h
  · rw [nearest, if_pos rfl, sub_zero, abs_zero, zero_mul]
  · have hspacing := spacing_le_of_one_le h
    rw [twoPow_neg_fiftyTwo] at hspacing
    have hround := abs_nearest_sub_le q
    linarith

theorem abs_nearest_le (q : Rat) : |nearest q| ≤ twoPow (unitExponent q + 53) := by
  have hgrid : OnGrid (unitExponent q) (twoPow (unitExponent q + 53)) := onGrid_twoPow (by omega)
  have hq := abs_le.1 (abs_lt_twoPow_unitExponent q).le
  exact abs_le.2 ⟨hgrid.neg.le_nearest hq.1, hgrid.nearest_le hq.2⟩

/-- What is rounded is a number of the format. -/
theorem representable_nearest (q : Rat) : Representable (nearest q) :=
  ⟨unitExponent q, le_unitExponent q, onGrid_nearest q, abs_nearest_le q⟩

/-- From a number of the format up to `q` there is a point of the grid of `q`. -/
theorem Representable.exists_onGrid {x q : Rat} (hx : Representable x) (h : x ≤ q) :
    ∃ y, OnGrid (unitExponent q) y ∧ x ≤ y ∧ y ≤ q := by
  obtain ⟨e, he, hgrid, hsize⟩ := hx
  rcases le_or_gt (unitExponent q) e with hle | hlt
  · exact ⟨x, hgrid.mono hle, le_rfl, h⟩
  · -- `x` has a smaller unit, and the leading bit of `q` lies above it
    by_cases hq : q = 0
    · exact ⟨0, ⟨0, by simp⟩, hq ▸ h, hq.ge⟩
    · have hexponent : e + 53 ≤ exponent q := by
        rw [unitExponent] at hlt
        omega
      have hlead : OnGrid (unitExponent q) (twoPow (exponent q)) := by
        refine onGrid_twoPow ?_
        rw [unitExponent] at hlt ⊢
        omega
      have hx : |x| ≤ twoPow (exponent q) := hsize.trans (twoPow_le_twoPow.2 hexponent)
      have hbits := (twoPow_exponent_le hq).1
      rcases lt_or_gt_of_ne hq with hneg | hpos
      · refine ⟨-twoPow (exponent q), hlead.neg, ?_, ?_⟩
        · rw [abs_of_neg hneg] at hbits
          linarith
        · linarith [(abs_le.1 hx).1]
      · rw [abs_of_pos hpos] at hbits
        exact ⟨twoPow (exponent q), hlead, (abs_le.1 hx).2, hbits⟩

/-- **Rounding does not carry a number past a number of the format.** -/
theorem Representable.le_nearest {x q : Rat} (hx : Representable x) (h : x ≤ q) :
    x ≤ nearest q := by
  obtain ⟨y, hy, hxy, hyq⟩ := hx.exists_onGrid h
  exact hxy.trans (hy.le_nearest hyq)

theorem Representable.nearest_le {x q : Rat} (hx : Representable x) (h : q ≤ x) :
    nearest q ≤ x := by
  obtain ⟨y, hy, hxy, hyq⟩ := hx.neg.exists_onGrid (neg_le_neg h)
  rw [unitExponent_neg] at hy
  exact (hy.neg.nearest_le (le_neg_of_le_neg hyq)).trans (neg_le_of_neg_le hxy)

/-- **A number of the format is not rounded.** -/
theorem Representable.nearest_eq {x : Rat} (h : Representable x) : nearest x = x :=
  le_antisymm (h.nearest_le le_rfl) (h.le_nearest le_rfl)

/-- **An integer of at most fifty-three bits is not rounded.** -/
theorem nearest_intCast {k : Int} (hk : k.natAbs < 2 ^ 53) : nearest (k : Rat) = k :=
  (representable_intCast (abs_le.2 ⟨by omega, by omega⟩)).nearest_eq

/-- A share of an integer is not rounded beyond the integer. -/
theorem nearest_mul_bounds {q : Rat} {n : Nat} (hn : n ≤ 2 ^ 53) (hq : 0 ≤ q ∧ q ≤ 1) :
    0 ≤ nearest (q * n) ∧ nearest (q * n) ≤ n := by
  have hnonneg : (0 : Rat) ≤ n := Nat.cast_nonneg n
  exact ⟨representable_zero.le_nearest (mul_nonneg hq.1 hnonneg),
    (representable_natCast hn).nearest_le (mul_le_of_le_one_left hnonneg hq.2)⟩

/-! ### Closeness -/

/-- A point that is no farther from the upper of two numbers is not below their middle. -/
theorem add_le_of_abs_sub_le {a b x : Rat} (hlt : b < a) (h : |a - x| ≤ |b - x|) :
    a + b ≤ 2 * x := by
  have hsquares := sq_le_sq.2 h
  nlinarith

theorem le_add_of_abs_sub_le {a b x : Rat} (hlt : b < a) (h : |b - x| ≤ |a - x|) :
    2 * x ≤ a + b := by
  have hsquares := sq_le_sq.2 h
  nlinarith

/-- **No number of the format is closer to `q` than the one that `q` is rounded to.** -/
theorem Representable.abs_nearest_sub_le {x q : Rat} (hx : Representable x) :
    |nearest q - q| ≤ |x - q| := by
  have hround := abs_le.1 (Binary64.abs_nearest_sub_le q)
  rw [spacing_eq] at hround
  rcases le_total x q with h | h
  · rw [abs_of_nonpos (sub_nonpos.2 h)]
    have hbelow := hx.le_nearest h
    refine abs_le.2 ⟨by linarith, ?_⟩
    obtain ⟨y, hy, hxy, hyq⟩ := hx.exists_onGrid h
    rcases le_or_gt (nearest q) q with hle | hlt
    · linarith
    · -- `q` lies between two points of its grid, not below their middle
      have hunit := hy.add_twoPow_le (onGrid_nearest q) (hyq.trans_lt hlt)
      linarith
  · rw [abs_of_nonneg (sub_nonneg.2 h)]
    have habove := hx.nearest_le h
    refine abs_le.2 ⟨?_, by linarith⟩
    obtain ⟨y, hy, hxy, hyq⟩ := hx.neg.exists_onGrid (neg_le_neg h)
    rw [unitExponent_neg] at hy
    rcases le_or_gt q (nearest q) with hle | hlt
    · linarith
    · have hunit := (onGrid_nearest q).add_twoPow_le hy.neg (by linarith)
      linarith

/-- **Rounding is monotone.** -/
theorem nearest_mono {x y : Rat} (h : x ≤ y) : nearest x ≤ nearest y := by
  by_contra hlt
  rw [not_le] at hlt
  -- in the other order the middle of the two results would separate `y` from `x`
  have hx := add_le_of_abs_sub_le hlt (representable_nearest y).abs_nearest_sub_le
  have hy := le_add_of_abs_sub_le hlt (representable_nearest x).abs_nearest_sub_le
  have heq : x = y := by linarith
  exact absurd hlt (heq ▸ lt_irrefl _)

/-! ### Sums with an integer -/

/-- **A sum with an integer keeps a unit.**  The sum of an integer and a number of fifty-three bits
over a unit that divides one is rounded to a number whose distance to the integer again has
fifty-three bits over a unit that divides one. -/
theorem exists_unit_nearest_add {n u : Int} {q : Rat} (hlow : -1074 ≤ u) (hhigh : u ≤ 0)
    (hgrid : OnGrid u q) (hsize : |q| ≤ twoPow (u + 53)) (hsum : |n + q| < 2 ^ 53) :
    ∃ e, -1074 ≤ e ∧ e ≤ 0 ∧ OnGrid e (nearest (n + q) - n) ∧
      |nearest (n + q) - n| ≤ twoPow (e + 53) := by
  have hunit := unitExponent_nonpos hsum
  rcases le_or_gt (unitExponent (n + q)) u with hle | hlt
  · -- the sum is a point of its own grid
    have hexact : nearest (n + q) = n + q :=
      (((onGrid_intCast hhigh n).add hgrid).mono hle).nearest_eq_self
    rw [hexact, add_sub_cancel_left]
    exact ⟨u, hlow, hhigh, hgrid, hsize⟩
  · refine ⟨unitExponent (n + q), le_unitExponent _, hunit,
      (onGrid_nearest _).sub (onGrid_intCast hunit n), ?_⟩
    -- the sum has a larger unit, of which `q` has half as many at most
    have hround := abs_le.1 (abs_nearest_sub_le (n + q))
    have hhalf : twoPow (u + 53) ≤ twoPow (unitExponent (n + q) + 52) :=
      twoPow_le_twoPow.2 (by omega)
    have hdouble : twoPow (unitExponent (n + q) + 53) = twoPow (unitExponent (n + q) + 52) * 2 := by
      rw [← twoPow_succ, add_assoc]
      norm_num
    have hspacing : spacing (n + q) ≤ twoPow (unitExponent (n + q) + 52) := by
      rw [spacing_eq]
      exact twoPow_le_twoPow.2 (by omega)
    have hq := abs_le.1 hsize
    rw [hdouble]
    exact abs_le.2 ⟨by linarith, by linarith⟩

/-- On such a grid an integer that is no farther away than `n` is as far away as a number of the
format. -/
theorem representable_sub_intCast {n m e : Int} {x : Rat} (hlow : -1074 ≤ e) (hhigh : e ≤ 0)
    (hgrid : OnGrid e (x - n)) (hsize : |x - n| ≤ twoPow (e + 53)) (h : |x - m| ≤ |x - n|) :
    Representable (x - m) := by
  refine ⟨e, hlow, ?_, h.trans hsize⟩
  have hsum := hgrid.add (onGrid_intCast hhigh (n - m))
  push_cast at hsum
  rwa [sub_add_sub_cancel] at hsum

/-- Up to fifty-three bits before the point, the unit of a number can be taken to divide one. -/
theorem Representable.exists_unit_nonpos {x : Rat} (hx : Representable x) (h : |x| ≤ 2 ^ 53) :
    ∃ e, -1074 ≤ e ∧ e ≤ 0 ∧ OnGrid e x ∧ |x| ≤ twoPow (e + 53) := by
  obtain ⟨e, he, hgrid, hsize⟩ := hx
  rcases le_or_gt e 0 with hle | hlt
  · exact ⟨e, he, hle, hgrid, hsize⟩
  · refine ⟨0, by omega, le_rfl, hgrid.mono hlt.le, ?_⟩
    rwa [zero_add, show (53 : Int) = (53 : Nat) from rfl, twoPow_natCast]

/-- An integer is away from a number of the format by such a number, unless zero is nearer. -/
theorem Representable.sub_intCast {x : Rat} (hx : Representable x) (hsize : |x| ≤ 2 ^ 53) {n : Int}
    (h : |x - n| ≤ |x|) : Representable (x - n) := by
  obtain ⟨e, hlow, hhigh, hgrid, hunit⟩ := hx.exists_unit_nonpos hsize
  exact representable_sub_intCast (n := 0) hlow hhigh (by simpa) (by simpa) (by simpa)

/-! ### Rounding to an integer, a half away from zero -/

theorem le_roundHalfAway_of_lt {q : Rat} {n : Int} (h : (n : Rat) - 1 / 2 < q) :
    n ≤ roundHalfAway q := by
  rw [roundHalfAway]
  split
  · exact Rat.le_floor_iff.2 (by linarith)
  · have : (1 / 2 - q).floor < -n + 1 := Rat.floor_lt_iff.2 (by push_cast; linarith)
    omega

theorem le_roundHalfAway {q : Rat} {n : Int} (h : (n : Rat) ≤ q) : n ≤ roundHalfAway q :=
  le_roundHalfAway_of_lt (by linarith)

theorem roundHalfAway_le {q : Rat} {n : Int} (h : q < n + 1 / 2) : roundHalfAway q ≤ n := by
  rw [roundHalfAway]
  split
  · have : (q + 1 / 2).floor < n + 1 := Rat.floor_lt_iff.2 (by push_cast; linarith)
    omega
  · have : -n ≤ (1 / 2 - q).floor := Rat.le_floor_iff.2 (by push_cast; linarith)
    omega

theorem roundHalfAway_intCast (n : Int) : roundHalfAway (n : Rat) = n :=
  le_antisymm (roundHalfAway_le (by linarith)) (le_roundHalfAway le_rfl)

theorem roundHalfAway_mono {q r : Rat} (h : q ≤ r) : roundHalfAway q ≤ roundHalfAway r := by
  rw [roundHalfAway, roundHalfAway]
  split_ifs with hq hr hr
  · exact Rat.floor_monotone (by linarith)
  · exact absurd (hq.trans h) hr
  · have hlow : 0 ≤ (1 / 2 - q).floor := Rat.le_floor_iff.2 (by push_cast; linarith)
    have hhigh : 0 ≤ (r + 1 / 2).floor := Rat.le_floor_iff.2 (by push_cast; linarith)
    omega
  · exact neg_le_neg (Rat.floor_monotone (by linarith))

/-! ### The interchange form -/

theorem Representable.of_toRat?_neg {q r : Rat} (hq : Representable q)
    (h : (finite q).neg.toRat? = some r) : Representable r := by
  rw [Binary64.neg] at h
  split at h
  · rw [← Option.some_inj.1 h]
    exact representable_zero
  · rw [← Option.some_inj.1 h]
    exact hq.neg

/-- What sixty-four bits stand for is a number of the format, if it is finite. -/
theorem representable_of_ofBits {bits : UInt64} {q : Rat} (h : (ofBits bits).toRat? = some q) :
    Representable q := by
  have hfraction : (bits &&& 0xfffffffffffff).toNat < 2 ^ 52 := by
    rw [UInt64.toNat_and]
    exact Nat.lt_of_le_of_lt Nat.and_le_right (by decide)
  have hsigned : ∀ (n : Nat) (e : Int), n < 2 ^ 53 → -1074 ≤ e →
      (if bits >>> 63 = 1 then (finite (n * twoPow e)).neg else finite (n * twoPow e)).toRat?
        = some q → Representable q := by
    intro n e hn he h
    have hmagnitude : Representable (n * twoPow e) :=
      representable_mul_twoPow (n := n) he (abs_le.2 ⟨by omega, by omega⟩)
    split at h
    · exact hmagnitude.of_toRat?_neg h
    · rwa [← Option.some_inj.1 h]
  rw [ofBits] at h
  dsimp only at h
  split at h
  · -- an infinity or NaN
    split at h <;> exact absurd h (by simp [toRat?])
  · split at h
    · exact hsigned _ _ (by omega) le_rfl h
    · exact hsigned _ _ (by rw [Nat.pow_eq]; omega) (by omega) h

end Binary64
end FontPreferences
