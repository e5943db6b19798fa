import FontPreferences.Proofs.Slider.Standing

/-
Sliders in the arithmetic of a machine.

A slider computes with natural numbers and rationals, which have no bounds.  Here its operations are
written once more over the integers of thirty-two and sixty-four bits and the finite numbers of the
binary64 format, where each subtraction, conversion, look-up by index and operation on numbers of
the format has a result only if the result is one of its type.

* `Width.hold?`, `minus?`, `float?`, `divide?`: the operations that can fail;
* `stepCount?`, `input?`, `nudge?`, `setValue?`: what a slider does, with these operations;
* `stepCount?_eq`, `input?_eq`, `nudge?_eq`, `setValue?_eq`: nothing fails, whatever the map, the
  number of positions and the arguments, and the results are those of the unbounded computation;
* `run_sound`: with it, the invariant of a slider through every run of events.
-/
namespace FontPreferences

open Binary64 (twoPow Representable)

namespace Machine

/-- The integer types of the computation.  Lengths and indices are of sixty-four bits. -/
inductive Width where
  | signed32
  | signed64
  | unsigned32
  | unsigned64

/-- The least number of a type. -/
def Width.least : Width → Int
  | .signed32 => -2 ^ 31
  | .signed64 => -2 ^ 63
  | .unsigned32 | .unsigned64 => 0

/-- The greatest number of a type. -/
def Width.greatest : Width → Int
  | .signed32 => 2 ^ 31 - 1
  | .signed64 => 2 ^ 63 - 1
  | .unsigned32 => 2 ^ 32 - 1
  | .unsigned64 => 2 ^ 64 - 1

/-- An integer as a number of a type, if it is one. -/
def Width.hold? (w : Width) (n : Int) : Option Int :=
  if w.least ≤ n ∧ n ≤ w.greatest then some n else none

/-- The difference of unsigned numbers, if it is not negative. -/
def minus? (a b : Nat) : Option Nat :=
  if b ≤ a then some (a - b) else none

/-- A result as a number of the format, if it does not overflow. -/
def float? (q : Rat) : Option Rat :=
  (Binary64.ofRat q).toRat?

/-- A quotient as a number of the format, if the divisor is not zero. -/
def divide? (a b : Rat) : Option Rat :=
  if b = 0 then none else float? (a / b)

theorem Width.hold?_eq {w : Width} {n : Int} (hleast : w.least ≤ n) (hgreatest : n ≤ w.greatest) :
    w.hold? n = some n :=
  if_pos ⟨hleast, hgreatest⟩

theorem Width.hold?_signed64 {n : Int} (hlow : -2 ^ 63 ≤ n) (hhigh : n < 2 ^ 63) :
    Width.signed64.hold? n = some n :=
  Width.hold?_eq hlow (Int.le_sub_one_of_lt hhigh)

theorem Width.hold?_unsigned32 {n : Int} (hlow : 0 ≤ n) (hhigh : n < 2 ^ 32) :
    Width.unsigned32.hold? n = some n :=
  Width.hold?_eq hlow (Int.le_sub_one_of_lt hhigh)

theorem minus?_eq {a b : Nat} (h : b ≤ a) : minus? a b = some (a - b) :=
  if_pos h

/-- Numbers of sixty-five bits before the point are far from an overflow. -/
theorem float?_eq {q : Rat} (h : |q| ≤ 2 ^ 65) : float? q = some (Binary64.nearest q) := by
  have hbound : Representable (2 ^ 65) := by
    rw [← Binary64.twoPow_natCast]
    refine ⟨65, by omega, Binary64.onGrid_twoPow le_rfl, ?_⟩
    rw [abs_of_pos (Binary64.twoPow_pos _)]
    exact Binary64.twoPow_le_twoPow.2 (by norm_num)
  have hlimit : (2 : Rat) ^ 65 < twoPow 1024 := by
    rw [← Binary64.twoPow_natCast]
    exact Binary64.twoPow_lt_twoPow.2 (by norm_num)
  obtain ⟨hlow, hhigh⟩ := abs_le.1 h
  have hle := hbound.nearest_le hhigh
  have hge := hbound.neg.le_nearest hlow
  rw [float?, Binary64.ofRat, if_neg (by linarith), if_neg (by linarith)]
  rfl

theorem float?_intCast {n : Int} (h : |n| < 2 ^ 53) : float? (n : Rat) = some (n : Rat) := by
  have hrepresentable := Binary64.representable_intCast h.le
  have hsize : |(n : Rat)| < 2 ^ 53 := by exact_mod_cast h
  rw [float?_eq (by linarith), hrepresentable.nearest_eq]

theorem divide?_eq {a b : Rat} (hb : b ≠ 0) (h : |a / b| ≤ 2 ^ 65) :
    divide? a b = some (Binary64.nearest (a / b)) := by
  rw [divide?, if_neg hb, float?_eq h]

end Machine

open Machine

namespace ValueMap

variable (m : ValueMap)

/-- The last value, by its index. -/
def last? : Option Int32 := do
  let i ← minus? m.values.length 1
  m.values[i]?

/-- The distance from the first to the last value. -/
def span? : Option Int := do
  let last ← m.last?
  Width.signed64.hold? (last.toInt - m.first.toInt)

/-- The value closest to a number, by the index of the first value that is not below it. -/
def closest? (target : Rat) : Option Int32 := do
  let i := (m.values.takeWhile fun v => toRat v < target).length
  if i = 0 then m.values[0]?
  else if i = m.values.length then m.last?
  else
    let lower ← m.values[← minus? i 1]?
    let upper ← m.values[i]?
    let below ← float? (target - toRat lower)
    let above ← float? (toRat upper - target)
    some (if below ≤ above then lower else upper)

theorem last?_eq : m.last? = some m.last := by
  have hlength : 1 ≤ m.values.length := by simp [values]
  rw [last?, minus?_eq hlength]
  show m.values[m.values.length - 1]? = some m.last
  rw [← List.getLast?_eq_getElem?, getLast?_values]

theorem span?_eq : m.span? = some m.span := by
  obtain ⟨hnonneg, hlt⟩ := m.span_bounds
  rw [span?, last?_eq]
  show Width.signed64.hold? m.span = some m.span
  exact Width.hold?_signed64 (by omega) (by omega)

theorem closest?_eq {target : Rat} (h : |target| ≤ 2 ^ 33) :
    m.closest? target = some (m.closest target) := by
  have hsplit := List.takeWhile_append_dropWhile (p := fun v => decide (toRat v < target))
    (l := m.values)
  -- the index is the number of the values below the target: none, all of them, or some
  rw [closest?, closest]
  cases hlast : (m.values.takeWhile fun v => toRat v < target).getLast? with
  | none =>
    rw [List.getLast?_eq_none_iff] at hlast
    rw [hlast]
    rfl
  | some lower =>
    obtain ⟨front, hfront⟩ := List.getLast?_eq_some_iff.1 hlast
    have hlength : (m.values.takeWhile fun v => toRat v < target).length = front.length + 1 := by
      simp [hfront]
    cases hhead : (m.values.dropWhile fun v => toRat v < target).head? with
    | none =>
      rw [List.head?_eq_none_iff] at hhead
      rw [hhead, List.append_nil] at hsplit
      simp [hlength, last?_eq, ← congrArg List.length hsplit]
    | some upper =>
      obtain ⟨rest, hrest⟩ := List.head?_eq_some_iff.1 hhead
      rw [hfront, hrest] at hsplit
      have hdistance : ∀ v : Int32, |target - toRat v| ≤ 2 ^ 65 := by
        intro v
        obtain ⟨hlow, hhigh⟩ := toRat_bounds v
        obtain ⟨hlow', hhigh'⟩ := abs_le.1 h
        exact abs_le.2 ⟨by linarith, by linarith⟩
      have hdistance' : |toRat upper - target| ≤ 2 ^ 65 := by
        rw [abs_sub_comm]
        exact hdistance upper
      simp only [hlength]
      rw [← hsplit]
      simp [minus?, float?_eq (hdistance lower), float?_eq hdistance']

end ValueMap

namespace Slider

variable (s : Slider)

/-- The number of positions for a map: one more than its range, or as many as there can be. -/
def stepCount? (m : ValueMap) : Option Nat := do
  let count ← Width.signed64.hold? ((← m.span?) + 1)
  some (((Width.unsigned32.hold? count).map Int.toNat).getD maxSteps)

def interpolate? (position : Nat) : Option Rat := do
  let first ← float? (ValueMap.toRat s.map.first)
  if s.steps ≤ 1 then some first
  else
    let last ← minus? s.steps 1
    let p ← float? (min position last : Nat)
    let product ← float? ((← float? (← s.map.span?)) * p)
    let quotient ← divide? product (← float? last)
    float? (first + quotient)

def resolve? (position : Nat) : Option Int32 := do
  let q ← s.interpolate? position
  if s.continuous then
    (Width.signed32.hold? (Binary64.roundHalfAway q)).map Int32.ofInt
  else s.map.closest? q

def input? (raw : Nat) : Option Motion := do
  if s.disabled then some s.still
  else
    let position := min raw (← minus? s.steps 1)
    let moved := { s with position := position }
    let value ← s.resolve? position
    some (if value = s.value then moved.still
      else ⟨{ moved with value := value }, some value, s.announce value⟩)

/-- Bisection, with its bounds in sixty-four bits and each position that it tries in thirty-two. -/
def bisect? (accept : Int32 → Bool) (low high : Nat) : Option Nat :=
  if low < high then
    let middle := low + (high - low) / 2
    (Width.unsigned64.hold? (middle + 1)).bind fun _ =>
    (Width.unsigned32.hold? middle).bind fun _ =>
    (s.resolve? middle).bind fun value =>
    if accept value then bisect? accept (middle + 1) high else bisect? accept low middle
  else (Width.unsigned32.hold? low).map Int.toNat
termination_by high - low

def countPositions? (accept : Int32 → Bool) : Option Nat :=
  s.bisect? accept 0 s.steps

def nudge? (step : Step) : Option Motion := do
  if s.disabled then some s.still
  else
    match step with
    | .increase =>
      let next ← s.countPositions? (· ≤ s.value)
      if s.steps ≤ next then some s.still else s.input? next
    | .decrease =>
      match ← s.countPositions? (· < s.value) with
      | 0 => some s.still
      | previous + 1 => s.input? previous

def snapped? (value : Int32) : Option Int32 := do
  if s.continuous then some (max s.map.first (min (← s.map.last?) value))
  else s.map.closest? (← float? (ValueMap.toRat value))

def estimate? (value : Int32) : Option Nat := do
  let span ← s.map.span?
  if s.steps ≤ 1 ∨ span = 0 then some 0
  else
    let offset ← Width.signed64.hold? (value.toInt - s.map.first.toInt)
    let share ← divide? (← float? offset) (← float? span)
    let place ← float? (share * (← float? (← minus? s.steps 1)))
    (Width.unsigned32.hold? (Binary64.roundHalfAway place)).map Int.toNat

def searchPosition? (value : Int32) : Option Nat := do
  let above ← s.countPositions? (· < value)
  if s.steps ≤ above then minus? s.steps 1
  else if above = 0 then some above
  else
    let next ← s.resolve? above
    if next = value then some above
    else
      let upper ← Width.signed64.hold? (next.toInt - value.toInt)
      let before ← minus? above 1
      let lower ← Width.signed64.hold? (value.toInt - (← s.resolve? before).toInt)
      some (if lower ≤ upper then before else above)

def setValue? (value : Int32) : Option Slider := do
  let wanted ← s.snapped? value
  let guess ← s.estimate? wanted
  if (← s.resolve? guess) = wanted then some { s with position := guess, value := wanted }
  else
    let position ← s.searchPosition? wanted
    some { s with position := position, value := ← s.resolve? position }

/-- What an event does to a slider, in the arithmetic of a machine. -/
def handle? : SliderEvent → Option Motion
  | .input raw => s.input? raw
  | .nudge step => s.nudge? step
  | .setValue value => (s.setValue? value).map still
  | .setDisabled disabled => some (s.setDisabled disabled).still

/-! ### Nothing fails -/

theorem stepCount?_eq (m : ValueMap) : stepCount? m = some (defaultSteps m) := by
  obtain ⟨hnonneg, hlt⟩ := m.span_bounds
  have hcount : Width.signed64.hold? (m.span + 1) = some (m.span + 1) :=
    Width.hold?_signed64 (by omega) (by omega)
  have hmax : (maxSteps : Int) = 2 ^ 32 - 1 := by decide
  rw [stepCount?, ValueMap.span?_eq]
  simp only [Option.bind_eq_bind, Option.bind_some, hcount, Option.some_inj, defaultSteps]
  rcases lt_or_ge m.span (2 ^ 32 - 1) with hfits | hlarge
  · rw [Width.hold?_unsigned32 (by omega) (by omega)]
    show (m.span + 1).toNat = _
    omega
  · -- only a map with both ends of the integers has more positions than fit
    have hnone : Width.unsigned32.hold? (m.span + 1) = none :=
      if_neg fun h => by
        rw [Width.greatest] at h
        omega
    rw [hnone]
    show maxSteps = _
    omega

variable {s}

theorem minus?_steps (s : Slider) : minus? s.steps 1 = some s.lastPosition :=
  minus?_eq s.steps_pos

theorem float?_toRat (v : Int32) : float? (ValueMap.toRat v) = some (ValueMap.toRat v) := by
  have hlow := v.le_toInt
  have hhigh := v.toInt_lt
  exact float?_intCast (abs_lt.2 ⟨by omega, by omega⟩)

theorem float?_span (m : ValueMap) : float? (m.span : Rat) = some (m.span : Rat) := by
  obtain ⟨hnonneg, hlt⟩ := m.span_bounds
  exact float?_intCast (abs_lt.2 ⟨by omega, by omega⟩)

/-- A position of the range is a number of the format. -/
theorem float?_position {p : Nat} (h : p ≤ s.lastPosition) : float? (p : Rat) = some (p : Rat) := by
  have hlt := s.lastPosition_lt_size
  exact_mod_cast float?_intCast (n := p) (abs_lt.2 ⟨by omega, by omega⟩)

theorem interpolate?_eq (s : Slider) (position : Nat) :
    s.interpolate? position = some (s.interpolate position) := by
  rcases Nat.lt_or_ge 1 s.steps with h | h
  · obtain ⟨hspan, hspanLt⟩ := s.map.span_bounds
    have hspanRat : (s.map.span : Rat) ≤ 2 ^ 32 := by exact_mod_cast hspanLt.le
    have hp : ((min position s.lastPosition : Nat) : Rat) ≤ 2 ^ 32 := by
      have hlt := s.lastPosition_lt_size
      have hmin := min_le_right position s.lastPosition
      exact_mod_cast (show ((min position s.lastPosition : Nat) : Int) ≤ 2 ^ 32 by omega)
    -- no number on the way is larger than the product, which has sixty-four bits
    have hproduct : |(s.map.span : Rat) * (min position s.lastPosition : Nat)| ≤ 2 ^ 65 := by
      have hnonneg : (0 : Rat) ≤ s.map.span := by exact_mod_cast hspan
      rw [abs_of_nonneg (mul_nonneg hnonneg (Nat.cast_nonneg _))]
      calc (s.map.span : Rat) * (min position s.lastPosition : Nat)
          ≤ 2 ^ 32 * 2 ^ 32 := mul_le_mul hspanRat hp (Nat.cast_nonneg _) (by norm_num)
        _ ≤ 2 ^ 65 := by norm_num
    have hhair := hair_lt_half
    obtain ⟨hnonneg, hle⟩ := advance_bounds h position
    obtain ⟨hroundNonneg, hroundLe⟩ := nearest_advance_bounds h position
    obtain ⟨hlow, hhigh⟩ := ValueMap.toRat_bounds s.map.first
    have hquotient : |s.advance position| ≤ 2 ^ 65 := abs_le.2 ⟨by linarith, by linarith⟩
    have hsum : |ValueMap.toRat s.map.first + Binary64.nearest (s.advance position)| ≤ 2 ^ 65 :=
      abs_le.2 ⟨by linarith, by linarith⟩
    rw [interpolate?, interpolate_eq h]
    simp only [float?_toRat, Option.bind_eq_bind, Option.bind_some, if_neg (not_le.2 h), minus?_steps,
      float?_position (min_le_right position s.lastPosition), ValueMap.span?_eq, float?_span,
      float?_eq hproduct, float?_position (le_refl s.lastPosition),
      divide?_eq (lastPosition_pos h).ne' hquotient]
    exact float?_eq hsum
  · rw [interpolate?, interpolate_of_steps_le h]
    simp only [float?_toRat, Option.bind_eq_bind, Option.bind_some, if_pos h]

theorem abs_interpolate_le (s : Slider) (position : Nat) : |s.interpolate position| ≤ 2 ^ 33 := by
  have hhair := hair_lt_half
  have hlow := first_le_interpolate s position
  have hhigh := interpolate_le s position
  have hfirst := ValueMap.toRat_bounds s.map.first
  have hlast := ValueMap.toRat_bounds s.map.last
  exact abs_le.2 ⟨by linarith, by linarith⟩

theorem resolve?_eq (s : Slider) (position : Nat) :
    s.resolve? position = some (s.resolve position) := by
  rw [resolve?, interpolate?_eq]
  simp only [Option.bind_eq_bind, Option.bind_some]
  cases h : s.continuous with
  | false =>
    rw [resolve, h]
    exact ValueMap.closest?_eq _ (abs_interpolate_le s position)
  | true =>
    obtain ⟨hlow, hhigh⟩ := roundHalfAway_interpolate s position
    have hfirst := s.map.first.le_toInt
    have hlast := s.map.last.toInt_lt
    rw [if_pos rfl,
      Width.hold?_eq (by rw [Width.least]; omega) (by rw [Width.greatest]; omega), Option.map_some,
      Option.some_inj, ← Int32.toInt_inj, toInt_resolve h]
    exact Int32.toInt_ofInt_of_le (by omega) (by omega)

theorem input?_eq (s : Slider) (raw : Nat) : s.input? raw = some (s.input raw) := by
  rw [input?, input]
  split
  · rfl
  · simp only [minus?_steps, Option.bind_eq_bind, Option.bind_some, resolve?_eq]

/-- One step of the bisection. -/
theorem bisect?_of_lt (s : Slider) (accept : Int32 → Bool) {low high : Nat} (h : low < high)
    (hhigh : high < 2 ^ 32) : s.bisect? accept low high
      = if accept (s.resolve (low + (high - low) / 2)) then
          s.bisect? accept (low + (high - low) / 2 + 1) high
        else s.bisect? accept low (low + (high - low) / 2) := by
  have hword : Width.unsigned64.hold? (((low + (high - low) / 2 : Nat) : Int) + 1)
      = some (((low + (high - low) / 2 : Nat) : Int) + 1) :=
    Width.hold?_eq (by rw [Width.least]; omega) (by rw [Width.greatest]; omega)
  have hposition : Width.unsigned32.hold? ((low + (high - low) / 2 : Nat) : Int)
      = some ((low + (high - low) / 2 : Nat) : Int) :=
    Width.hold?_unsigned32 (by omega) (by omega)
  rw [bisect?, if_pos h]
  dsimp only
  rw [hword, Option.bind_some, hposition, Option.bind_some, resolve?_eq, Option.bind_some]

theorem bisect?_eq (s : Slider) (accept : Int32 → Bool) {low high : Nat} (hlow : low < 2 ^ 32)
    (hhigh : high < 2 ^ 32) : s.bisect? accept low high = some (s.bisect accept low high) := by
  fun_induction s.bisect accept low high with
  | case1 low high hlt middle haccept ih =>
    rw [bisect?_of_lt s accept hlt hhigh, if_pos haccept]
    exact ih (by omega) hhigh
  | case2 low high hlt middle haccept ih =>
    rw [bisect?_of_lt s accept hlt hhigh, if_neg haccept]
    exact ih hlow (by omega)
  | case3 low high hge =>
    rw [bisect?, if_neg hge, Width.hold?_unsigned32 (by omega) (by omega)]
    rfl

theorem countPositions?_eq (s : Slider) (accept : Int32 → Bool) :
    s.countPositions? accept = some (s.countPositions accept) :=
  bisect?_eq s accept (by omega) s.steps_lt

theorem nudge?_eq (s : Slider) (step : Step) : s.nudge? step = some (s.nudge step) := by
  unfold nudge? nudge
  split
  · rfl
  · cases step with
    | increase =>
      simp only [countPositions?_eq, Option.bind_eq_bind, Option.bind_some, input?_eq]
      split <;> rfl
    | decrease =>
      simp only [countPositions?_eq, Option.bind_eq_bind, Option.bind_some, input?_eq]
      cases s.countPositions (· < s.value) <;> rfl

theorem snapped?_eq (s : Slider) (value : Int32) : s.snapped? value = some (s.snapped value) := by
  have hbounds := ValueMap.toRat_bounds value
  have hsize : |ValueMap.toRat value| ≤ 2 ^ 33 := abs_le.2 ⟨by linarith, by linarith⟩
  rw [snapped?, snapped]
  split
  · rw [ValueMap.last?_eq]
    rfl
  · rw [float?_toRat]
    exact ValueMap.closest?_eq _ hsize

theorem estimate?_eq {value : Int32} (h : s.map.first ≤ value ∧ value ≤ s.map.last) :
    s.estimate? value = some (s.estimate value) := by
  rw [estimate?, estimate_eq, ValueMap.span?_eq]
  simp only [Option.bind_eq_bind, Option.bind_some]
  split
  · rfl
  · next hrange =>
    have hspan : (s.map.span : Rat) ≠ 0 := by exact_mod_cast (not_or.1 hrange).2
    have hspanLt := s.map.span_bounds.2
    -- a value between the ends of the map has an offset within the range
    have hoffset : 0 ≤ value.toInt - s.map.first.toInt ∧
        value.toInt - s.map.first.toInt ≤ s.map.span := by
      rw [Int32.le_iff_toInt_le, Int32.le_iff_toInt_le] at h
      rw [ValueMap.span]
      omega
    have hhold : Width.signed64.hold? (value.toInt - s.map.first.toInt)
        = some (value.toInt - s.map.first.toInt) :=
      Width.hold?_signed64 (by omega) (by omega)
    have hfloat := float?_intCast (n := value.toInt - s.map.first.toInt)
      (abs_lt.2 ⟨by omega, by omega⟩)
    have hdivide : divide? ((value.toInt - s.map.first.toInt : Int) : Rat) (s.map.span : Rat)
        = some (Binary64.nearest (s.share value)) := by
      obtain ⟨hnonneg, hle⟩ := share_bounds h
      exact divide?_eq hspan (abs_le.2 ⟨by rw [← share]; linarith, by rw [← share]; linarith⟩)
    have hproduct : |Binary64.nearest (s.share value) * s.lastPosition| ≤ 2 ^ 65 := by
      obtain ⟨hnonneg, hle⟩ := nearest_share_bounds h
      have hlast : (s.lastPosition : Rat) < 2 ^ 32 := by
        exact_mod_cast s.lastPosition_lt_size
      have hlastNonneg : (0 : Rat) ≤ s.lastPosition := Nat.cast_nonneg _
      rw [abs_of_nonneg (mul_nonneg hnonneg hlastNonneg)]
      have := mul_le_of_le_one_left hlastNonneg hle
      linarith
    -- the conversion that would saturate is of a position of the range
    obtain ⟨hplaceNonneg, hplaceLe⟩ := place_bounds h
    have hposition : Width.unsigned32.hold? (Binary64.roundHalfAway (s.place value))
        = some (Binary64.roundHalfAway (s.place value)) := by
      have hlast := s.lastPosition_lt_size
      exact Width.hold?_unsigned32 (by omega) (by omega)
    have hmax : (maxSteps : Int) = 2 ^ 32 - 1 := by decide
    rw [hhold, Option.bind_some, hfloat, Option.bind_some, float?_span, Option.bind_some,
      hdivide, Option.bind_some, minus?_steps, Option.bind_some,
      float?_position (le_refl s.lastPosition), Option.bind_some, float?_eq hproduct,
      Option.bind_some]
    show (Width.unsigned32.hold? (Binary64.roundHalfAway (s.place value))).map Int.toNat = _
    rw [hposition, Option.map_some, Option.some_inj]
    have hlast := s.lastPosition_lt_size
    omega

theorem searchPosition?_eq (s : Slider) (value : Int32) :
    s.searchPosition? value = some (s.searchPosition value) := by
  have hdifference : ∀ v w : Int32, Width.signed64.hold? (v.toInt - w.toInt)
      = some (v.toInt - w.toInt) := by
    intro v w
    have := v.toInt_lt
    have := v.le_toInt
    have := w.toInt_lt
    have := w.le_toInt
    exact Width.hold?_signed64 (by omega) (by omega)
  rw [searchPosition?, searchPosition]
  simp only [countPositions?_eq, Option.bind_eq_bind, Option.bind_some, resolve?_eq, hdifference]
  split
  · exact minus?_steps s
  · by_cases hzero : s.countPositions (· < value) = 0
    · rw [if_pos hzero, if_pos (.inl hzero)]
    · rw [if_neg hzero, minus?_eq (Nat.pos_of_ne_zero hzero)]
      by_cases hnext : s.resolve (s.countPositions (· < value)) = value
      · rw [if_pos hnext, if_pos (.inr hnext)]
      · rw [if_neg hnext, if_neg (not_or.2 ⟨hzero, hnext⟩)]
        rfl

theorem setValue?_eq (s : Slider) (value : Int32) : s.setValue? value = some (s.setValue value) := by
  have hwanted := (permits_snapped s value).between
  rw [setValue?, setValue, snapped?_eq]
  simp only [Option.bind_eq_bind, Option.bind_some, estimate?_eq hwanted, resolve?_eq,
    searchPosition?_eq]
  split <;> rfl

/-- **Nothing that a slider computes overflows.**  In the arithmetic of a machine every event has a
result, and this is the one of the unbounded computation. -/
theorem handle?_eq (s : Slider) (e : SliderEvent) : s.handle? e = some (s.handle e) := by
  cases e with
  | input raw => exact input?_eq s raw
  | nudge step => exact nudge?_eq s step
  | setValue value => rw [handle?, setValue?_eq, handle, Option.map_some]
  | setDisabled disabled => rfl

/-- The slider after a run of events, in the arithmetic of a machine. -/
def run? (s : Slider) (events : List SliderEvent) : Option Slider :=
  events.foldlM (fun s e => (s.handle? e).map Motion.slider) s

theorem run?_eq (s : Slider) (events : List SliderEvent) : s.run? events = some (s.run events) := by
  induction events generalizing s with
  | nil => rfl
  | cons e events ih =>
    rw [run?, List.foldlM_cons, handle?_eq]
    exact ih (s.handle e).slider

/-- **A slider keeps its invariant, and its arithmetic never leaves the types of a machine.**  Over
any map, plain or continuous, with the default number of positions or any positive one, and after
any run of events:

* the position is one of the range, and the value is the one it resolves to, which is a permitted
  one, or for a continuous slider one between the first and the last;
* the number of positions, the run and every further event have the same results in the arithmetic
  of a machine, where each operation may fail;
* a disabled slider answers to no motion, and does not change by it. -/
theorem run_sound (id : SliderId) (m : ValueMap) (continuous : Bool) {steps : Option UInt32}
    (hsteps : ∀ n ∈ steps, 0 < n) (events : List SliderEvent) :
    ∃ start, build id m continuous steps = .ok start ∧
      stepCount? m = some (defaultSteps m) ∧ start.run? events = some (start.run events) ∧
      let s := start.run events
      s.map = m ∧ s.continuous = continuous ∧
        s.steps = (steps.map UInt32.toNat).getD (defaultSteps m) ∧
        1 ≤ s.steps ∧ s.position < s.steps ∧ s.value = s.resolve s.position ∧
        (if continuous then m.first ≤ s.value ∧ s.value ≤ m.last else s.value ∈ m.values) ∧
        (∀ e, s.handle? e = some (s.handle e)) ∧
        (s.disabled = true →
          (∀ raw, s.input raw = ⟨s, none, []⟩) ∧ ∀ step, s.nudge step = ⟨s, none, []⟩) := by
  obtain ⟨start, hbuild, hstart⟩ := exists_build id m continuous hsteps
  have hrange := sameRange_run start events
  have hstanding := standing_run (standing_of_start hstart.position hstart.value) events
  have hpermits := permits_resolve (start.run events) (start.run events).position
  have hmap := hrange.map.trans hstart.map
  have hcontinuous := hrange.continuous.trans hstart.continuous
  rw [← hstanding.value_eq, Permits, hmap, hcontinuous] at hpermits
  exact ⟨start, hbuild, stepCount?_eq m, run?_eq start events, hmap, hcontinuous,
    hrange.steps.trans hstart.steps, (start.run events).steps_pos, hstanding.position_lt,
    hstanding.value_eq, hpermits, handle?_eq _, fun hdisabled =>
      ⟨input_of_disabled hdisabled, nudge_of_disabled hdisabled⟩⟩

/-- The map of both ends of the integers and zero. -/
def wholeRange : ValueMap :=
  ⟨-2147483648, [0, 2147483647], by decide⟩

/-- Over all the integers, with as many positions as there can be, a slider that is set to one stands
at zero, and goes from there to the greatest integer. -/
theorem run_sound_wholeRange :
    (∀ n ∈ some (4294967295 : UInt32), 0 < n) ∧
    ∃ start, build .fixedSize wholeRange false (some 4294967295) = .ok start ∧
      start.run? [.setValue 1, .nudge .increase]
        = some (start.run [.setValue 1, .nudge .increase]) ∧
      (start.run [.setValue 1]).value = 0 ∧
      (start.run [.setValue 1, .nudge .increase]).value = 2147483647 ∧
      (start.run [.setValue 1, .nudge .increase]).value ∈ wholeRange.values := by
  have hsteps : ∀ n ∈ some (4294967295 : UInt32), 0 < n := by
    rintro n ⟨⟩
    decide
  obtain ⟨start, hbuild, -, hrun, -, -, -, -, -, -, hvalue, -⟩ :=
    run_sound .fixedSize wholeRange false hsteps [.setValue 1, .nudge .increase]
  refine ⟨hsteps, start, hbuild, hrun, ?_, ?_, hvalue⟩ <;>
  · rw [build, withSteps, dif_pos (by decide)] at hbuild
    cases hbuild
    decide +kernel

end Slider
end FontPreferences
