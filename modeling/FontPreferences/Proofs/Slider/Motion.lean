import FontPreferences.Control
import FontPreferences.Proofs.Slider.Nearest

/-
How the sliders of the page move.

* `Moves s m`: the motion `m` of `s` is either silent, with at most the position changed, or it
  announces a new value; `moves_input` and `moves_nudge` say that there is no third;
* `Over.nearest_setValue`: over the maps of the page, a slider takes from a stored value the
  permitted value nearest to it;
* `BuiltFor s id`: `s` is the slider `id` as the page builds it, standing at a permitted value;
  every motion keeps this (`BuiltFor.moves`).
-/
namespace FontPreferences
namespace Slider

/-- The two ways in which a slider answers to raw motion. -/
inductive Moves (s : Slider) : Motion → Prop where
  /-- At most the position changes. -/
  | silent (position : Nat) : Moves s ⟨{ s with position := position }, none, []⟩
  /-- The slider takes the value of the position and announces it. -/
  | heard (position : Nat) (enabled : s.disabled = false) (new : s.resolve position ≠ s.value) :
    Moves s ⟨{ s with position := position, value := s.resolve position },
      some (s.resolve position), s.announce (s.resolve position)⟩

theorem moves_still (s : Slider) : s.Moves s.still :=
  .silent s.position

theorem moves_input (s : Slider) (raw : Nat) : s.Moves (s.input raw) := by
  rw [input]
  split
  · exact moves_still s
  · next henabled =>
    simp only
    split
    · exact .silent _
    · next hne => exact .heard _ (by simpa using henabled) hne

theorem moves_nudge (s : Slider) (step : Step) : s.Moves (s.nudge step) := by
  unfold nudge
  split
  · exact moves_still s
  · -- at either end there is nowhere to go; elsewhere a nudge is the input of a position
    cases step with
    | increase =>
      simp only
      split
      · exact moves_still s
      · exact moves_input s _
    | decrease =>
      simp only
      split
      · exact moves_still s
      · exact moves_input s _

section Moves

variable {s : Slider} {m : Motion}

theorem Moves.disabled_eq (hm : s.Moves m) : m.slider.disabled = s.disabled := by
  cases hm <;> rfl

/-- A slider changes its value exactly by announcing it. -/
theorem Moves.value_eq (hm : s.Moves m) : m.slider.value = m.changed.getD s.value := by
  cases hm <;> rfl

theorem Moves.enabled (hm : s.Moves m) {value : Int32} (h : m.changed = some value) :
    s.disabled = false := by
  cases hm with
  | silent position => exact absurd h (by simp)
  | heard position enabled new => exact enabled

theorem Moves.value_of_disabled (hm : s.Moves m) (h : s.disabled = true) :
    m.slider.value = s.value := by
  cases hm with
  | silent position => rfl
  | heard position enabled new =>
    rw [h] at enabled
    exact absurd enabled (by simp)

end Moves

theorem resolve_mem {s : Slider} (h : s.continuous = false) (position : Nat) :
    s.resolve position ∈ s.map.values := by
  rw [resolve, h]
  exact ValueMap.closest_mem _ _

/-! ### Taking a stored value -/

/-- A plain slider over the map of `id`, with a position for each integer in its range. -/
structure Over (s : Slider) (id : SliderId) : Prop where
  map_eq : s.map = id.valueMap
  plain : s.continuous = false
  steps_eq : s.steps = defaultSteps id.valueMap
  mem : s.value ∈ id.valueMap.values

theorem resolve_congr {s t : Slider} (hmap : s.map = t.map)
    (hcontinuous : s.continuous = t.continuous) (hsteps : s.steps = t.steps) (position : Nat) :
    s.resolve position = t.resolve position := by
  simp only [resolve, interpolate, lastPosition, hmap, hcontinuous, hsteps]

theorem estimate_congr {s t : Slider} (hmap : s.map = t.map) (hsteps : s.steps = t.steps)
    (value : Int32) : s.estimate value = t.estimate value := by
  simp only [estimate, lastPosition, hmap, hsteps]

/-- On both maps of the page the proportional position of a permitted value has that value. -/
theorem resolve_estimate_create (id : SliderId) : ∀ v ∈ id.valueMap.values,
    (create id id.valueMap false).resolve ((create id id.valueMap false).estimate v) = v := by
  -- as a check of the list, since the permitted values are few and the integers are not
  have hall : (id.valueMap.values.all fun v => (create id id.valueMap false).resolve
      ((create id id.valueMap false).estimate v) == v) = true := by
    cases id <;> decide +kernel
  intro v hv
  exact eq_of_beq (List.all_eq_true.1 hall v hv)

theorem Over.resolve_estimate {s : Slider} {id : SliderId} (h : s.Over id) {v : Int32}
    (hv : v ∈ id.valueMap.values) : s.resolve (s.estimate v) = v := by
  rw [resolve_congr (t := create id id.valueMap false) h.map_eq h.plain h.steps_eq,
    estimate_congr (t := create id id.valueMap false) h.map_eq h.steps_eq]
  exact resolve_estimate_create id v hv

/-- A slider of the page takes exactly the value that a stored one snaps to. -/
theorem Over.setValue_eq {s : Slider} {id : SliderId} (h : s.Over id) (n : Int32) :
    s.setValue n = { s with
      position := s.estimate (id.valueMap.closest (ValueMap.toRat n))
      value := id.valueMap.closest (ValueMap.toRat n) } := by
  have hsnapped : s.snapped n = id.valueMap.closest (ValueMap.toRat n) := by
    rw [snapped, h.plain, h.map_eq]
    rfl
  rw [setValue]
  simp only [hsnapped]
  rw [if_pos (h.resolve_estimate (ValueMap.closest_mem _ _))]

/-- **A slider of the page takes from a stored value the permitted value nearest to it.** -/
theorem Over.nearest_setValue {s : Slider} {id : SliderId} (h : s.Over id) (n : Int32) :
    id.valueMap.Nearest (ValueMap.toRat n) (s.setValue n).value := by
  rw [h.setValue_eq]
  exact ValueMap.nearest_closest_toRat _ _

/-! ### Sliders of the page -/

/-- The slider `id` as the page builds it, wherever it stands and whether or not it is locked. -/
structure BuiltFor (s : Slider) (id : SliderId) : Prop extends s.Over id where
  id_eq : s.id = id
  onChange : s.onChange = true
  onPreferenceChange : s.onPreferenceChange = decide (id = .minimumSize)

theorem BuiltFor.moves {s : Slider} {id : SliderId} (h : s.BuiltFor id) {m : Motion}
    (hm : s.Moves m) : m.slider.BuiltFor id := by
  cases hm with
  | silent position =>
    exact ⟨⟨h.map_eq, h.plain, h.steps_eq, h.mem⟩, h.id_eq, h.onChange, h.onPreferenceChange⟩
  | heard position =>
    refine ⟨⟨h.map_eq, h.plain, h.steps_eq, ?_⟩, h.id_eq, h.onChange, h.onPreferenceChange⟩
    exact h.map_eq ▸ resolve_mem h.plain position

/-- A slider of the page announces to its sample, and the minimum slider to its preference too. -/
theorem BuiltFor.announce_eq {s : Slider} {id : SliderId} (h : s.BuiltFor id) (value : Int32) :
    s.announce value = ⟨.change, id, value⟩
      :: (if id = .minimumSize then [⟨.preferenceChange, id, value⟩] else []) := by
  rw [announce, h.onChange, h.onPreferenceChange, h.id_eq]
  simp

end Slider
end FontPreferences
