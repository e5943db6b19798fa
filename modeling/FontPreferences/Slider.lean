import FontPreferences.Slider.ValueMap

/-
Sliders over a value map.

The raw positions `0, …, steps - 1` are usually denser than the permitted values.  A position is
interpolated between the first and the last value in binary64 arithmetic; a plain slider then snaps
to the closest permitted value, a continuous one rounds to the closest integer.

* `resolve` is the value of a position;
* `input`, `nudge` and `setValue` move the slider; the first two answer with the new value, and call
  the installed hooks, exactly when the value changes;
* `countPositions` searches the positions by bisection, which needs `resolve` to be monotone.

Design note: a hook is known by its kind alone.  An operation returns the calls it makes, in order,
and the owner of the slider acts on them.
-/
namespace FontPreferences

/-- The sliders of the settings page, and the sample regions they preview into. -/
inductive SliderId where
  | serifSize
  | fixedSize
  | minimumSize
deriving DecidableEq, Repr, Inhabited

namespace SliderId

/-- All sliders, in screen order. -/
def all : List SliderId :=
  [.serifSize, .fixedSize, .minimumSize]

/-- The label shown beside a slider. -/
def label : SliderId → String
  | .serifSize => "Serif size"
  | .fixedSize => "Fixed-width size"
  | .minimumSize => "Minimum size"

/-- The identifier as it stands in a slider's debugging text. -/
def name : SliderId → String
  | .serifSize => "SerifSize"
  | .fixedSize => "FixedSize"
  | .minimumSize => "MinimumSize"

end SliderId

/-- The direction of a keyboard step. -/
inductive Step where
  | decrease
  | increase
deriving DecidableEq, Repr

/-- The two hooks that a slider may have. -/
inductive Hook where
  /-- Told of the new value first. -/
  | change
  /-- Told of the new value second, to write a further preference. -/
  | preferenceChange
deriving DecidableEq, Repr

/-- One call of a hook. -/
structure HookCall where
  hook : Hook
  source : SliderId
  value : Int32
deriving DecidableEq, Repr

/-- A slider over a value map. -/
structure Slider where
  id : SliderId
  map : ValueMap
  continuous : Bool
  /-- The number of raw positions. -/
  steps : Nat
  position : Nat
  /-- The value the slider shows. -/
  value : Int32
  disabled : Bool
  /-- Whether the change hook is installed. -/
  onChange : Bool
  /-- Whether the preference hook is installed. -/
  onPreferenceChange : Bool
  steps_pos : 0 < steps
  steps_lt : steps < UInt32.size
deriving DecidableEq, Repr

/-- What raw motion did to a slider: the slider afterwards, the new value if it changed, and the
hook calls in order. -/
structure Motion where
  slider : Slider
  changed : Option Int32
  calls : List HookCall
deriving DecidableEq, Repr

namespace Slider

/-- The greatest number of raw positions. -/
def maxSteps : Nat := UInt32.size - 1

/-- One raw position for each integer from the first to the last permitted value, as far as
`maxSteps` allows. -/
def defaultSteps (m : ValueMap) : Nat :=
  max 1 (min maxSteps (m.span + 1).toNat)

/-- A slider with the default number of positions, at its first value, without hooks. -/
def create (id : SliderId) (m : ValueMap) (continuous : Bool) : Slider where
  id := id
  map := m
  continuous := continuous
  steps := defaultSteps m
  position := 0
  value := m.first
  disabled := false
  onChange := false
  onPreferenceChange := false
  steps_pos := by simp only [defaultSteps]; omega
  steps_lt := by simp only [defaultSteps, maxSteps, UInt32.size]; omega

/-- A slider with a given number of positions, of which there must be one at least. -/
def withSteps (id : SliderId) (m : ValueMap) (continuous : Bool) (steps : UInt32) :
    Except SliderError Slider :=
  if h : 0 < steps.toNat then
    .ok { create id m continuous with
      steps := steps.toNat, steps_pos := h, steps_lt := steps.toNat_lt }
  else .error .emptyRange

/-- The slider with a hook installed; installing one again replaces it. -/
def install (s : Slider) : Hook → Slider
  | .change => { s with onChange := true }
  | .preferenceChange => { s with onPreferenceChange := true }

/-- The slider, locked or unlocked. -/
def setDisabled (s : Slider) (disabled : Bool) : Slider :=
  { s with disabled := disabled }

/-- The last raw position. -/
def lastPosition (s : Slider) : Nat :=
  s.steps - 1

/-- The position as a fraction of the range, for drawing. -/
def fraction (s : Slider) : Rat :=
  if s.steps ≤ 1 then 0
  else Binary64.nearest ((s.position : Rat) / (s.lastPosition : Rat))

/-- The number that the range places at a raw position, before snapping.  Each operation rounds. -/
def interpolate (s : Slider) (position : Nat) : Rat :=
  let first := ValueMap.toRat s.map.first
  if s.steps ≤ 1 then first
  else
    let p := min position s.lastPosition
    let product := Binary64.nearest ((s.map.span : Rat) * (p : Rat))
    let quotient := Binary64.nearest (product / (s.lastPosition : Rat))
    Binary64.nearest (first + quotient)

/-- The value of a raw position. -/
def resolve (s : Slider) (position : Nat) : Int32 :=
  let q := s.interpolate position
  if s.continuous then Binary64.clampInt32 (Binary64.roundHalfAway q) else s.map.closest q

/-- The hook calls that announce a new value. -/
def announce (s : Slider) (value : Int32) : List HookCall :=
  (if s.onChange then [⟨.change, s.id, value⟩] else [])
    ++ (if s.onPreferenceChange then [⟨.preferenceChange, s.id, value⟩] else [])

/-- Nothing happens. -/
def still (s : Slider) : Motion :=
  ⟨s, none, []⟩

/-- Raw motion to a position.  A disabled slider does not move. -/
def input (s : Slider) (raw : Nat) : Motion :=
  if s.disabled then s.still
  else
    let position := min raw s.lastPosition
    let moved := { s with position := position }
    let value := s.resolve position
    if value = s.value then moved.still
    else ⟨{ moved with value := value }, some value, s.announce value⟩

/-- Bisection between `low` and `high` for the first position whose value fails `accept`. -/
def bisect (s : Slider) (accept : Int32 → Bool) (low high : Nat) : Nat :=
  if low < high then
    let middle := low + (high - low) / 2
    if accept (s.resolve middle) then s.bisect accept (middle + 1) high
    else s.bisect accept low middle
  else low
termination_by high - low

/-- The number of leading positions whose value passes `accept`. -/
def countPositions (s : Slider) (accept : Int32 → Bool) : Nat :=
  s.bisect accept 0 s.steps

/-- A keyboard step: raw motion to the nearest position with another value on that side. -/
def nudge (s : Slider) (step : Step) : Motion :=
  if s.disabled then s.still
  else
    match step with
    | .increase =>
      let next := s.countPositions (· ≤ s.value)
      if s.steps ≤ next then s.still else s.input next
    | .decrease =>
      match s.countPositions (· < s.value) with
      | 0 => s.still
      | previous + 1 => s.input previous

/-- The value that a stored value asks for: the closest permitted one, or for a continuous slider
the stored one forced into the range of the map. -/
def snapped (s : Slider) (value : Int32) : Int32 :=
  if s.continuous then max s.map.first (min s.map.last value)
  else s.map.closest (ValueMap.toRat value)

/-- The position proportional to a value of the map. -/
def estimate (s : Slider) (value : Int32) : Nat :=
  if s.steps ≤ 1 ∨ s.map.span = 0 then 0
  else
    let offset : Rat := (value.toInt - s.map.first.toInt : Int)
    let share := Binary64.nearest (offset / (s.map.span : Rat))
    let place := Binary64.nearest (share * (s.lastPosition : Rat))
    min maxSteps (Binary64.roundHalfAway place).toNat

/-- The position whose value is closest to `value`: the first one that has it, or else the closer of
the last position below and the first one above, the lower on a tie. -/
def searchPosition (s : Slider) (value : Int32) : Nat :=
  let above := s.countPositions (· < value)
  if s.steps ≤ above then s.lastPosition
  else if above = 0 ∨ s.resolve above = value then above
  else
    let upper := (s.resolve above).toInt - value.toInt
    let lower := value.toInt - (s.resolve (above - 1)).toInt
    if lower ≤ upper then above - 1 else above

/-- Positions the slider from a stored value, without calling any hook. -/
def setValue (s : Slider) (value : Int32) : Slider :=
  let wanted := s.snapped value
  let guess := s.estimate wanted
  if s.resolve guess = wanted then { s with position := guess, value := wanted }
  else
    let position := s.searchPosition wanted
    { s with position := position, value := s.resolve position }

/-- One line of debugging text. -/
def describe (s : Slider) : String :=
  let flag (b : Bool) := if b then "true" else "false"
  "ValueMapSlider \x7b id: " ++ s.id.name ++ ", continuous: " ++ flag s.continuous
    ++ ", steps: " ++ toString s.steps ++ ", position: " ++ toString s.position
    ++ ", value: " ++ toString s.value.toInt ++ ", disabled: " ++ flag s.disabled
    ++ ", notify_change: " ++ flag s.onChange
    ++ ", notify_pref_change: " ++ flag s.onPreferenceChange ++ " \x7d"

end Slider
end FontPreferences
