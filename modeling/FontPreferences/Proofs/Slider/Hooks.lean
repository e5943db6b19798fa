import FontPreferences.Proofs.Slider.Walking

/-
What a slider tells its hooks over a run.

* `trace`: the hook calls of a run, in the order in which they are made;
* `Changes s e`: the event `e` moves the enabled slider `s` to another value; `changed_handle_iff`:
  these events, and no others, answer with a value, which is the one afterwards;
* `news`: the values that the events of a run change to, read off the sliders before and after them;
* `calls_handle`: an event that changes the value calls the hooks that are installed, once and in their
  order, and any other event calls none;
* `trace_eq`: so does a run, value by value;
* `hooks_report_changes`: all of it, and that a nudge without an answer leaves the slider as it was.

The position may move without the value, and `setValue` moves the value without an answer.  So what is
to be reported is said of the values alone, and not of the answers.
-/
namespace FontPreferences

/-- Whether an event is a motion of the user's: raw motion, or a keyboard step. -/
def SliderEvent.isMotion : SliderEvent → Bool
  | .input _ | .nudge _ => true
  | .setValue _ | .setDisabled _ => false

namespace Slider

variable {s t : Slider} {e : SliderEvent}

/-- The hook calls of a run of events, in order. -/
def trace (s : Slider) : List SliderEvent → List HookCall
  | [] => []
  | e :: events => (s.handle e).calls ++ (s.handle e).slider.trace events

/-- An event is a motion of the user's that takes an enabled slider to another value. -/
def Changes (s : Slider) (e : SliderEvent) : Prop :=
  e.isMotion = true ∧ s.disabled = false ∧ (s.handle e).slider.value ≠ s.value

instance (s : Slider) (e : SliderEvent) : Decidable (s.Changes e) :=
  inferInstanceAs (Decidable (_ ∧ _ ∧ _))

/-- The values that the events of a run change to, in order. -/
def news (s : Slider) : List SliderEvent → List Int32
  | [] => []
  | e :: events =>
    let t := (s.handle e).slider
    (if s.Changes e then [t.value] else []) ++ t.news events

/-- Whether a hook is installed. -/
def has (s : Slider) : Hook → Bool
  | .change => s.onChange
  | .preferenceChange => s.onPreferenceChange

/-- The installed hooks, in the order in which they are called. -/
def hooks (s : Slider) : List Hook :=
  [.change, .preferenceChange].filter s.has

/-! ### The hooks of a slider -/

/-- Sliders with the same identifier and the same hooks. -/
structure SameHooks (s t : Slider) : Prop where
  id : t.id = s.id
  onChange : t.onChange = s.onChange
  onPreferenceChange : t.onPreferenceChange = s.onPreferenceChange

theorem SameHooks.hooks (h : s.SameHooks t) : t.hooks = s.hooks := by
  have hhas : t.has = s.has := by
    funext hook
    cases hook with
    | change => exact h.onChange
    | preferenceChange => exact h.onPreferenceChange
  rw [Slider.hooks, hhas, Slider.hooks]

/-- No event installs a hook or takes one away. -/
theorem sameHooks_handle (s : Slider) (e : SliderEvent) : s.SameHooks (s.handle e).slider := by
  have hmoves : ∀ m, s.Moves m → s.SameHooks m.slider := by
    intro m hm
    cases hm <;> exact ⟨rfl, rfl, rfl⟩
  cases e with
  | input raw => exact hmoves _ (moves_input s raw)
  | nudge step => exact hmoves _ (moves_nudge s step)
  | setValue value =>
    rw [handle, setValue]
    dsimp only
    split <;> exact ⟨rfl, rfl, rfl⟩
  | setDisabled disabled => exact ⟨rfl, rfl, rfl⟩

theorem announce_eq_map_hooks (s : Slider) (value : Int32) :
    s.announce value = s.hooks.map fun hook => ⟨hook, s.id, value⟩ := by
  unfold announce hooks
  cases hchange : s.onChange <;> cases hpreference : s.onPreferenceChange <;>
    simp [has, hchange, hpreference]

/-! ### One event -/

/-- What is not a motion of the user's is neither answered nor reported. -/
theorem handle_of_not_isMotion (h : e.isMotion = false) :
    (s.handle e).changed = none ∧ (s.handle e).calls = [] := by
  cases e with
  | input raw => exact absurd h (by simp [SliderEvent.isMotion])
  | nudge step => exact absurd h (by simp [SliderEvent.isMotion])
  | setValue value => exact ⟨rfl, rfl⟩
  | setDisabled disabled => exact ⟨rfl, rfl⟩

theorem moves_handle (h : e.isMotion = true) : s.Moves (s.handle e) := by
  cases e with
  | input raw => exact moves_input s raw
  | nudge step => exact moves_nudge s step
  | setValue value => exact absurd h (by simp [SliderEvent.isMotion])
  | setDisabled disabled => exact absurd h (by simp [SliderEvent.isMotion])

/-- A motion that changes the value is answered with the new one and reported to the installed hooks;
nothing else is answered or reported. -/
theorem handle_cases (s : Slider) (e : SliderEvent) :
    (s.Changes e ∧ (s.handle e).changed = some (s.handle e).slider.value ∧
      (s.handle e).calls = s.announce (s.handle e).slider.value) ∨
    (¬s.Changes e ∧ (s.handle e).changed = none ∧ (s.handle e).calls = []) := by
  cases hmotion : e.isMotion with
  | false =>
    have hsilent : ¬s.Changes e := fun h => absurd (h.1.symm.trans hmotion) (by simp)
    exact .inr ⟨hsilent, handle_of_not_isMotion hmotion⟩
  | true =>
    have hmoves := moves_handle (s := s) hmotion
    generalize hm : s.handle e = m at hmoves
    cases hmoves with
    | silent position =>
      refine .inr ⟨fun h => ?_, rfl, rfl⟩
      have hvalue := h.2.2
      rw [hm] at hvalue
      exact hvalue rfl
    | heard position henabled hnew =>
      refine .inl ⟨⟨hmotion, henabled, ?_⟩, rfl, rfl⟩
      rw [hm]
      exact hnew

/-- **Which events are answered with a value**: those that change it, with the value afterwards. -/
theorem changed_handle_iff {value : Int32} : (s.handle e).changed = some value ↔
    s.Changes e ∧ value = (s.handle e).slider.value := by
  rcases handle_cases s e with ⟨hchanges, hchanged, -⟩ | ⟨hchanges, hchanged, -⟩
  · rw [hchanged, Option.some_inj]
    constructor
    · intro h
      exact ⟨hchanges, h.symm⟩
    · intro h
      exact h.2.symm
  · rw [hchanged]
    constructor
    · intro h
      exact absurd h (by simp)
    · intro h
      exact absurd h.1 hchanges

/-- **What an event tells the hooks.** -/
theorem calls_handle (s : Slider) (e : SliderEvent) : (s.handle e).calls
    = (if s.Changes e then [(s.handle e).slider.value] else []).flatMap
      fun value => s.hooks.map fun hook => ⟨hook, s.id, value⟩ := by
  rcases handle_cases s e with ⟨hchanges, -, hcalls⟩ | ⟨hchanges, -, hcalls⟩
  · rw [hcalls, if_pos hchanges, List.flatMap_singleton, announce_eq_map_hooks]
  · rw [hcalls, if_neg hchanges, List.flatMap_nil]

/-- A nudge without an answer has not even moved the position. -/
theorem slider_nudge_of_changed_eq_none {step : Step} (h : (s.nudge step).changed = none) :
    (s.nudge step).slider = s := by
  cases hdisabled : s.disabled with
  | true =>
    rw [nudge_of_disabled hdisabled]
    rfl
  | false =>
    rcases nudge_cases_lands hdisabled step with ⟨-, hstill⟩ | ⟨p, hlands, hinput⟩
    · rw [hstill]
      rfl
    · -- where a nudge lands there is another value to answer with
      rw [hinput, hlands.changed_input hdisabled] at h
      exact absurd h (by simp)

/-! ### Runs -/

/-- **What a run tells the hooks**: each value that an event changes to, once and in order. -/
theorem trace_eq (s : Slider) (events : List SliderEvent) : s.trace events
    = (s.news events).flatMap fun value => s.hooks.map fun hook => ⟨hook, s.id, value⟩ := by
  induction events generalizing s with
  | nil => rfl
  | cons e events ih =>
    have hsame := sameHooks_handle s e
    rw [trace, news, List.flatMap_append, calls_handle, ih, hsame.hooks, hsame.id]

/-- **Hooks report every change once, in order, and nothing else.**  Take any slider, with any of the
hooks installed, and any run of events.

* In whatever state of the run an event meets the slider, it is answered with a value exactly if it is
  a motion of the user's, the slider is enabled, and the value afterwards is not the one before; the
  answer is the value afterwards.
* The trace of the run reports, for each of these events in order, the value to the change hook and
  then to the preference hook, as far as they are installed.
* A nudge without an answer leaves the whole slider as it was. -/
theorem hooks_report_changes (s : Slider) (events : List SliderEvent) :
    (∀ pre e post, events = pre ++ e :: post →
      let before := s.run pre
      let after := (before.handle e).slider
      (∀ value, (before.handle e).changed = some value ↔
        (e.isMotion = true ∧ before.disabled = false ∧ after.value ≠ before.value) ∧
          value = after.value) ∧
      ∀ step, e = .nudge step → (before.handle e).changed = none → after = before) ∧
    s.trace events = (s.news events).flatMap fun value =>
      ([Hook.change, .preferenceChange].filter s.has).map fun hook => ⟨hook, s.id, value⟩ := by
  refine ⟨?_, trace_eq s events⟩
  intro pre e post _ before after
  refine ⟨fun value => changed_handle_iff, ?_⟩
  rintro step rfl hnone
  exact slider_nudge_of_changed_eq_none hnone

/-- The minimum slider with both hooks: to 12, there once more, silently to 20, and one nudge up. -/
example :
    let s := ((create .minimumSize .minimumFontSizes false).install .change).install .preferenceChange
    s.trace [.input 3, .input 3, .setValue 20, .nudge .increase] = [
      ⟨.change, .minimumSize, 12⟩, ⟨.preferenceChange, .minimumSize, 12⟩,
      ⟨.change, .minimumSize, 22⟩, ⟨.preferenceChange, .minimumSize, 22⟩] := by
  decide +kernel

end Slider
end FontPreferences
