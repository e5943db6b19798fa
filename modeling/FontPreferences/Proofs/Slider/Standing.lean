import FontPreferences.Proofs.Slider.Interpolation

/-
A slider stands where its value says.

* `Permits s v`: `v` is a value that the slider may show, one of the map for a plain slider and one
  between its ends for a continuous one; `permits_resolve`: every position resolves to such a value;
* `resolve_zero`, `resolve_of_lastPosition_le`: the ends of the range stand for those of the map;
* `Standing s`: the position is one of the range, and the value is the one it resolves to;
* `standing_of_start`: a slider at the start of its range stands;
* `standing_handle`, `standing_run`: each event keeps this, and so does a run of events;
* `permits_snapped`, `place_bounds`: a value that is asked for is made a permitted one, and its
  proportional position is one of the range as well.
-/
namespace FontPreferences

open Binary64 (representable_zero representable_one)

theorem Binary64.toInt_clampInt32 {n : Int} (hlow : -2 ^ 31 ≤ n) (hhigh : n < 2 ^ 31) :
    (clampInt32 n).toInt = n := by
  have hmin : Int32.minValue.toInt = -2 ^ 31 := by decide
  have hmax : Int32.maxValue.toInt = 2 ^ 31 - 1 := by decide
  rw [clampInt32, hmin, hmax, min_eq_right (by omega), max_eq_right hlow]
  exact Int32.toInt_ofInt_of_le hlow hhigh

theorem clamp_between {a b : Int32} (h : a ≤ b) (v : Int32) :
    a ≤ max a (min b v) ∧ max a (min b v) ≤ b := by
  have hmin : min b v = if b ≤ v then b else v := rfl
  have hmax : ∀ c, max a c = if a ≤ c then c else a := fun _ => rfl
  rw [hmax, hmin]
  by_cases hb : b ≤ v
  · rw [if_pos hb, if_pos h]
    exact ⟨h, Int32.le_refl b⟩
  · rw [if_neg hb]
    have hv := (Int32.le_total b v).resolve_left hb
    by_cases ha : a ≤ v
    · rw [if_pos ha]
      exact ⟨ha, hv⟩
    · rw [if_neg ha]
      exact ⟨Int32.le_refl a, h⟩

/-- Something that happens to a slider. -/
inductive SliderEvent where
  | input (raw : Nat)
  | nudge (step : Step)
  | setValue (value : Int32)
  | setDisabled (disabled : Bool)

namespace Slider

variable {s : Slider}

/-- What an event does to a slider. -/
def handle (s : Slider) : SliderEvent → Motion
  | .input raw => s.input raw
  | .nudge step => s.nudge step
  | .setValue value => (s.setValue value).still
  | .setDisabled disabled => (s.setDisabled disabled).still

/-- The slider after a run of events. -/
def run (s : Slider) (events : List SliderEvent) : Slider :=
  events.foldl (fun s e => (s.handle e).slider) s

/-! ### Permitted values -/

/-- A value that the slider may show. -/
def Permits (s : Slider) (v : Int32) : Prop :=
  if s.continuous then s.map.first ≤ v ∧ v ≤ s.map.last else v ∈ s.map.values

theorem Permits.between {v : Int32} (h : s.Permits v) : s.map.first ≤ v ∧ v ≤ s.map.last := by
  rw [Permits] at h
  split at h
  · exact h
  · exact ⟨ValueMap.first_le h, ValueMap.le_last h⟩

/-- The interpolation of a position rounds to an integer between the ends of the map. -/
theorem roundHalfAway_interpolate (s : Slider) (position : Nat) :
    s.map.first.toInt ≤ Binary64.roundHalfAway (s.interpolate position) ∧
      Binary64.roundHalfAway (s.interpolate position) ≤ s.map.last.toInt := by
  have hhair := hair_lt_half
  have hlow := first_le_interpolate s position
  have hhigh := interpolate_le s position
  rw [ValueMap.toRat] at hlow hhigh
  exact ⟨Binary64.le_roundHalfAway hlow, Binary64.roundHalfAway_le (by linarith)⟩

/-- A continuous slider rounds to an integer, which always is one of thirty-two bits. -/
theorem toInt_resolve (h : s.continuous = true) (position : Nat) :
    (s.resolve position).toInt = Binary64.roundHalfAway (s.interpolate position) := by
  obtain ⟨hlow, hhigh⟩ := roundHalfAway_interpolate s position
  have hfirst := s.map.first.le_toInt
  have hlast := s.map.last.toInt_lt
  rw [resolve, h, if_pos rfl]
  exact Binary64.toInt_clampInt32 (by omega) (by omega)

/-- Every position resolves to a value that the slider may show. -/
theorem permits_resolve (s : Slider) (position : Nat) : s.Permits (s.resolve position) := by
  cases h : s.continuous with
  | false =>
    rw [Permits, h]
    exact resolve_mem h position
  | true =>
    rw [Permits, h, if_pos rfl, Int32.le_iff_toInt_le, Int32.le_iff_toInt_le, toInt_resolve h]
    exact roundHalfAway_interpolate s position

theorem permits_snapped (s : Slider) (value : Int32) : s.Permits (s.snapped value) := by
  cases h : s.continuous with
  | false =>
    rw [Permits, snapped, h]
    exact ValueMap.closest_mem _ _
  | true =>
    have hends := ValueMap.le_last s.map.first_mem
    rw [Permits, snapped, h, if_pos rfl, if_pos rfl]
    exact clamp_between hends value

/-! ### Standing -/

/-- The position is one of the range, and the value is the one it resolves to. -/
structure Standing (s : Slider) : Prop where
  position_lt : s.position < s.steps
  value_eq : s.value = s.resolve s.position

theorem lastPosition_lt (s : Slider) : s.lastPosition < s.steps :=
  Nat.sub_lt s.steps_pos Nat.one_pos

theorem lastPosition_lt_size (s : Slider) : (s.lastPosition : Int) < 2 ^ 32 := by
  have hlt := s.lastPosition_lt.trans s.steps_lt
  rw [UInt32.size] at hlt
  omega

/-- The start of the range stands for the first value. -/
theorem interpolate_zero (s : Slider) : s.interpolate 0 = ValueMap.toRat s.map.first := by
  have hzero : Binary64.nearest 0 = 0 := if_pos rfl
  rcases Nat.lt_or_ge 1 s.steps with h | h
  · rw [interpolate_eq h, advance, Nat.zero_min, Nat.cast_zero, mul_zero, hzero, zero_div, hzero,
      add_zero]
    exact (representable_toRat _).nearest_eq
  · exact interpolate_of_steps_le h

theorem resolve_zero (s : Slider) : s.resolve 0 = s.map.first := by
  rw [resolve, interpolate_zero]
  cases s.continuous with
  | false =>
    have hnearest := ValueMap.nearest_closest_toRat s.map s.map.first
    exact hnearest.unique (ValueMap.nearest_self s.map.first_mem)
  | true =>
    have hround : Binary64.roundHalfAway (ValueMap.toRat s.map.first) = s.map.first.toInt :=
      Binary64.roundHalfAway_intCast s.map.first.toInt
    rw [if_pos rfl, hround, ← Int32.toInt_inj]
    exact Binary64.toInt_clampInt32 s.map.first.le_toInt s.map.first.toInt_lt

/-- The end of the range stands for the last value, however its interpolation is rounded. -/
theorem resolve_of_lastPosition_le (h : 1 < s.steps) {position : Nat}
    (hlast : s.lastPosition ≤ position) : s.resolve position = s.map.last := by
  have hhair := hair_lt_half
  have hlow := last_sub_hair_le_interpolate h hlast
  have hhigh := interpolate_le s position
  cases hkind : s.continuous with
  | false =>
    have hclose : |ValueMap.toRat s.map.last - s.interpolate position| < 1 / 2 :=
      abs_lt.2 ⟨by linarith, by linarith⟩
    exact (nearest_resolve hkind).unique (ValueMap.nearest_of_abs_sub_lt s.map.last_mem hclose)
  | true =>
    rw [← Int32.toInt_inj, toInt_resolve hkind]
    rw [ValueMap.toRat] at hlow hhigh
    exact le_antisymm (Binary64.roundHalfAway_le (by linarith))
      (Binary64.le_roundHalfAway_of_lt (by linarith))

/-- A slider at the start of its range stands. -/
theorem standing_of_start (hposition : s.position = 0) (hvalue : s.value = s.map.first) :
    s.Standing := by
  refine ⟨hposition ▸ s.steps_pos, ?_⟩
  rw [hposition, hvalue, resolve_zero]

/-- A slider as it is built, with a given number of positions or the default one. -/
def build (id : SliderId) (m : ValueMap) (continuous : Bool) :
    Option UInt32 → Except SliderError Slider
  | none => .ok (create id m continuous)
  | some steps => withSteps id m continuous steps

/-- A new slider, at the start of its range. -/
structure New (s : Slider) (m : ValueMap) (continuous : Bool) (steps : Nat) : Prop where
  map : s.map = m
  continuous : s.continuous = continuous
  steps : s.steps = steps
  position : s.position = 0
  value : s.value = s.map.first

/-- Every positive number of positions will do. -/
theorem exists_build (id : SliderId) (m : ValueMap) (continuous : Bool) {steps : Option UInt32}
    (hsteps : ∀ n ∈ steps, 0 < n) : ∃ s, build id m continuous steps = .ok s ∧
      s.New m continuous ((steps.map UInt32.toNat).getD (defaultSteps m)) := by
  cases steps with
  | none => exact ⟨_, rfl, ⟨rfl, rfl, rfl, rfl, rfl⟩⟩
  | some n =>
    have hpos : 0 < n.toNat := UInt32.lt_iff_toNat_lt.1 (hsteps n rfl)
    rw [build, withSteps, dif_pos hpos]
    exact ⟨_, rfl, ⟨rfl, rfl, rfl, rfl, rfl⟩⟩

/-! ### Events -/

theorem standing_input (h : s.Standing) (raw : Nat) : (s.input raw).slider.Standing := by
  rw [input]
  split
  · exact h
  · have hlt : min raw s.lastPosition < s.steps :=
      (min_le_right _ _).trans_lt s.lastPosition_lt
    dsimp only
    split
    · next heq => exact ⟨hlt, heq.symm⟩
    · exact ⟨hlt, rfl⟩

/-- A nudge is the input of a position, or nothing. -/
theorem nudge_cases (s : Slider) (step : Step) :
    s.nudge step = s.still ∨ ∃ position, s.nudge step = s.input position := by
  unfold nudge
  split
  · exact .inl rfl
  · cases step with
    | increase =>
      dsimp only
      split
      · exact .inl rfl
      · exact .inr ⟨_, rfl⟩
    | decrease =>
      dsimp only
      split
      · exact .inl rfl
      · exact .inr ⟨_, rfl⟩

theorem standing_nudge (h : s.Standing) (step : Step) : (s.nudge step).slider.Standing := by
  rcases nudge_cases s step with hstill | ⟨position, hinput⟩
  · rw [hstill]
    exact h
  · rw [hinput]
    exact standing_input h position

/-! ### Positions of stored values -/

/-- The share of the range that lies below a value. -/
def share (s : Slider) (value : Int32) : Rat :=
  ((value.toInt - s.map.first.toInt : Int) : Rat) / s.map.span

/-- The proportional position of a value, before it is rounded to an integer. -/
def place (s : Slider) (value : Int32) : Rat :=
  Binary64.nearest (Binary64.nearest (s.share value) * s.lastPosition)

theorem estimate_eq (s : Slider) (value : Int32) : s.estimate value
    = if s.steps ≤ 1 ∨ s.map.span = 0 then 0
      else min maxSteps (Binary64.roundHalfAway (s.place value)).toNat := rfl

section between

variable {value : Int32} (h : s.map.first ≤ value ∧ value ≤ s.map.last)
include h

theorem share_bounds : 0 ≤ s.share value ∧ s.share value ≤ 1 := by
  rw [Int32.le_iff_toInt_le, Int32.le_iff_toInt_le] at h
  have hspan : (0 : Rat) ≤ s.map.span := by exact_mod_cast s.map.span_bounds.1
  refine ⟨div_nonneg (by exact_mod_cast sub_nonneg.2 h.1) hspan, div_le_one_of_le₀ ?_ hspan⟩
  rw [ValueMap.span]
  exact_mod_cast sub_le_sub_right h.2 _

theorem nearest_share_bounds :
    0 ≤ Binary64.nearest (s.share value) ∧ Binary64.nearest (s.share value) ≤ 1 := by
  exact ⟨representable_zero.le_nearest (share_bounds h).1,
    representable_one.nearest_le (share_bounds h).2⟩

/-- The proportional position of a value between the ends of the map is one of the range. -/
theorem place_bounds : 0 ≤ Binary64.roundHalfAway (s.place value) ∧
    Binary64.roundHalfAway (s.place value) ≤ s.lastPosition := by
  have hlast := s.lastPosition_lt_size
  have hplace : 0 ≤ s.place value ∧ s.place value ≤ s.lastPosition :=
    Binary64.nearest_mul_bounds (by omega) (nearest_share_bounds h)
  refine ⟨Binary64.le_roundHalfAway (by exact_mod_cast hplace.1), Binary64.roundHalfAway_le ?_⟩
  rw [Int.cast_natCast]
  linarith [hplace.2]

theorem estimate_lt : s.estimate value < s.steps := by
  rw [estimate_eq]
  split
  · exact s.steps_pos
  · have hplace := (place_bounds h).2
    have hlast := s.lastPosition_lt
    omega

end between

theorem searchPosition_lt (s : Slider) (value : Int32) : s.searchPosition value < s.steps := by
  have hlast := s.lastPosition_lt
  rw [searchPosition]
  dsimp only
  split_ifs <;> omega

/-! ### Runs -/

theorem standing_setValue (s : Slider) (value : Int32) : (s.setValue value).Standing := by
  have hwanted := (permits_snapped s value).between
  rw [setValue]
  dsimp only
  -- the estimate is taken only if it resolves to what is asked for
  split
  · next hguess => exact ⟨estimate_lt hwanted, hguess.symm⟩
  · exact ⟨searchPosition_lt s _, rfl⟩

/-- Every event keeps a slider standing. -/
theorem standing_handle (h : s.Standing) (e : SliderEvent) : (s.handle e).slider.Standing := by
  cases e with
  | input raw => exact standing_input h raw
  | nudge step => exact standing_nudge h step
  | setValue value => exact standing_setValue s value
  | setDisabled disabled => exact ⟨h.position_lt, h.value_eq⟩

/-- **A slider that stands goes on to stand**, through every run of events. -/
theorem standing_run (h : s.Standing) (events : List SliderEvent) : (s.run events).Standing :=
  List.foldlRecOn events _ h fun _ ht e _ => standing_handle ht e

/-! ### The range -/

/-- Sliders over the same map, with the same positions. -/
structure SameRange (s t : Slider) : Prop where
  map : t.map = s.map
  continuous : t.continuous = s.continuous
  steps : t.steps = s.steps

theorem Moves.sameRange {m : Motion} (hm : s.Moves m) : s.SameRange m.slider := by
  cases hm <;> exact ⟨rfl, rfl, rfl⟩

theorem sameRange_handle (s : Slider) (e : SliderEvent) : s.SameRange (s.handle e).slider := by
  cases e with
  | input raw => exact (moves_input s raw).sameRange
  | nudge step => exact (moves_nudge s step).sameRange
  | setValue value =>
    rw [handle, setValue]
    dsimp only
    split <;> exact ⟨rfl, rfl, rfl⟩
  | setDisabled disabled => exact ⟨rfl, rfl, rfl⟩

/-- No event changes the range. -/
theorem sameRange_run (s : Slider) (events : List SliderEvent) : s.SameRange (s.run events) := by
  refine List.foldlRecOn (motive := s.SameRange) events _ ⟨rfl, rfl, rfl⟩ fun t ht e _ => ?_
  have hnext := sameRange_handle t e
  exact ⟨hnext.map.trans ht.map, hnext.continuous.trans ht.continuous, hnext.steps.trans ht.steps⟩

/-! ### Disabled sliders -/

theorem input_of_disabled (h : s.disabled = true) (raw : Nat) : s.input raw = s.still := by
  rw [input, if_pos h]

theorem nudge_of_disabled (h : s.disabled = true) (step : Step) : s.nudge step = s.still := by
  unfold nudge
  exact if_pos h

end Slider
end FontPreferences
