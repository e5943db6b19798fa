import FontPreferences.Proofs.App.Run
import FontPreferences.Proofs.Preference.Calls

/-
Where an app stands, and how keys steer it.

* `Bearings`: whether the app runs, which panel it shows, where its cursor is, and where it stands in
  the error history;
* `Hears a e`: the key event reaches the app and its panels, and not an open error history;
  `Adjusts a e`, `Resets a e`: it is one for the control with the focus, or for the preference under
  the cursor;
* `Bearings.Steers`: what a key can make of bearings, and `steers_handleKey`: a key event makes
  nothing else of those of an app;
* `bearings_adjust`, `bearings_resetSelected`: the keys that change the page or the store leave the
  bearings alone.

A reset has an error to report only for a row without a preference, and the listing has no such row.
-/
namespace FontPreferences

/-- The part of an app that keys steer. -/
structure Bearings where
  running : Bool
  panel : Panel
  cursor : Nat
  errors : List ErrorRecord
  errorScroll : Nat
  historyOpen : Bool

/-- Whether a key is one that ends the program: `q`, or `c` with Control. -/
def KeyEvent.Quits (e : KeyEvent) : Prop :=
  e.code = .char 'q' ∨ (e.code = .char 'c' ∧ e.control = true)

instance (e : KeyEvent) : Decidable e.Quits :=
  inferInstanceAs (Decidable (_ ∨ _))

/-- What a key can make of bearings, over a listing of `rows` rows. -/
inductive Bearings.Steers (b : Bearings) (quits : Prop) (rows : Nat) : Bearings → Prop where
  | stay : Steers b quits rows b
  | quit (h : quits) : Steers b quits rows { b with running := false }
  | openHistory (h : b.historyOpen = false) :
      Steers b quits rows { b with historyOpen := true, errorScroll := 0 }
  | closeHistory (h : b.historyOpen = true) : Steers b quits rows { b with historyOpen := false }
  /-- To the error before the one shown first, if there is one. -/
  | older (h : b.errorScroll + 1 < b.errors.length) :
      Steers b quits rows { b with errorScroll := b.errorScroll + 1 }
  | newer : Steers b quits rows { b with errorScroll := b.errorScroll - 1 }
  /-- To the row below, if there is one. -/
  | rowDown (h : b.cursor + 1 < rows) : Steers b quits rows { b with cursor := b.cursor + 1 }
  | rowUp : Steers b quits rows { b with cursor := b.cursor - 1 }

namespace Bearings.Steers

variable {b b' : Bearings} {quits : Prop} {rows : Nat}

/-- A key that does not end the program lets the app run on. -/
theorem running (h : b.Steers quits rows b') (hquits : ¬quits) : b'.running = b.running := by
  cases h with
  | quit h => exact absurd h hquits
  | stay | openHistory | closeHistory | older | newer | rowDown | rowUp => rfl

theorem panel (h : b.Steers quits rows b') : b'.panel = b.panel := by
  cases h <;> rfl

/-- A key leaves the errors, and moves the places only to where there is an error and a row. -/
theorem inRange (h : b.Steers quits rows b')
    (hscroll : b.errorScroll = 0 ∨ b.errorScroll < b.errors.length) (hcursor : b.cursor < rows) :
    b'.errors = b.errors ∧ (b'.errorScroll = 0 ∨ b'.errorScroll < b'.errors.length) ∧
      b'.cursor < rows := by
  cases h with
  | stay => exact ⟨rfl, hscroll, hcursor⟩
  | quit => exact ⟨rfl, hscroll, hcursor⟩
  | openHistory => exact ⟨rfl, .inl rfl, hcursor⟩
  | closeHistory => exact ⟨rfl, hscroll, hcursor⟩
  | older hlt => exact ⟨rfl, .inr hlt, hcursor⟩
  | newer =>
    refine ⟨rfl, ?_, hcursor⟩
    show b.errorScroll - 1 = 0 ∨ b.errorScroll - 1 < b.errors.length
    omega
  | rowDown hlt => exact ⟨rfl, hscroll, hlt⟩
  | rowUp =>
    refine ⟨rfl, hscroll, ?_⟩
    show b.cursor - 1 < rows
    omega

end Bearings.Steers

namespace App

def bearings (a : App) : Bearings :=
  ⟨a.running, a.panel, a.cursor, a.errors, a.errorScroll, a.historyOpen⟩

/-- Whether a key event reaches the app: it is a press, and no error history lies over the panel. -/
def Hears (a : App) (e : KeyEvent) : Prop :=
  e.motion = .press ∧ a.historyOpen = false

instance (a : App) (e : KeyEvent) : Decidable (a.Hears e) :=
  inferInstanceAs (Decidable (_ ∧ _))

/-- Whether a key event is one to step the control with the focus. -/
def Adjusts (a : App) (e : KeyEvent) : Prop :=
  a.Hears e ∧ a.panel = .fonts ∧ e.code ∈ [.char 'h', .char 'l', .left, .right]

/-- Whether a key event is one to drop the value under the cursor. -/
def Resets (a : App) (e : KeyEvent) : Prop :=
  a.Hears e ∧ a.panel = .preferences ∧ e.code = .char 'r'

/-- The bearings of an app on the panel that a key event shows. -/
def turned (a : App) (e : KeyEvent) : Bearings :=
  { a.bearings with panel := (a.keyPanel? e).getD a.panel }

variable {a : App} {e : KeyEvent}

theorem hears_iff : a.Hears e ↔ ¬(e.motion ≠ .press ∨ a.historyOpen = true) := by
  rw [not_or, not_not, Bool.not_eq_true, Hears]

theorem turned_of_keyPanel?_eq_none (h : a.keyPanel? e = none) : a.turned e = a.bearings := by
  rw [turned, h]
  rfl

/-! ### What the page and the store do not steer -/

theorem bearings_showPanel (a : App) (panel : Panel) :
    (a.showPanel panel).bearings = { a.bearings with panel := panel } := by
  cases panel with
  | fonts =>
    obtain ⟨requests, heq⟩ := showPanel_fonts a
    rw [heq]
    rfl
  | preferences => rfl
  | help => rfl

theorem bearings_adjustSlider (a : App) (id : SliderId) (step : Step) :
    (a.adjustSlider id step).bearings = a.bearings := by
  rw [adjustSlider]
  split
  · rfl
  · dsimp only
    split <;> rfl

theorem bearings_adjustList (a : App) (id : ListId) (step : Step) :
    (a.adjustList id step).bearings = a.bearings := by
  rw [adjustList]
  split
  · rfl
  · split
    · rfl
    · split
      · rfl
      · dsimp only
        split
        · rfl
        · split <;> rfl

theorem bearings_adjust (a : App) (step : Step) : (a.adjust step).bearings = a.bearings := by
  rw [adjust]
  split
  · exact bearings_adjustSlider ..
  · exact bearings_adjustList ..

/-- A row of the listing can always be reset, so there is no error to report. -/
theorem clear_ne_error {entry : Preference.Entry} {row : Nat}
    (h : a.store.entries[row]? = some entry) (e : Preference.StoreError) :
    a.store.clear entry.key ≠ .error e := by
  intro herror
  have hregistered := (Preference.Store.mem_entries_iff.1 (List.mem_of_getElem? h)).1
  have hunknown := (Preference.Store.clear_eq_error_iff.1 herror).1
  exact absurd (hregistered.symm.trans hunknown) (by simp)

theorem bearings_resetSelected (a : App) : a.resetSelected.bearings = a.bearings := by
  rw [resetSelected]
  split
  · rfl
  · next entry hentry =>
    split
    · rfl
    · split
      · rfl
      · next error herror => exact absurd herror (clear_ne_error hentry error)

/-! ### What a key event steers -/

theorem bearings_fontsKey (a : App) (code : KeyCode) : (a.fontsKey code).bearings = a.bearings := by
  unfold fontsKey
  split <;> first | rfl | exact bearings_adjust ..

section steers

variable {quits : Prop}

theorem steers_historyKey (hopen : a.historyOpen = true) (code : KeyCode) (rows : Nat) :
    a.bearings.Steers quits rows (a.historyKey code).bearings := by
  have holder : a.bearings.Steers quits rows (if a.errorScroll + 1 < a.errors.length
      then { a with errorScroll := a.errorScroll + 1 } else a).bearings := by
    split
    · next hlt => exact .older hlt
    · exact .stay
  unfold historyKey
  split
  · exact .closeHistory hopen
  · exact .closeHistory hopen
  · exact .closeHistory hopen
  · exact holder
  · exact holder
  · exact .newer
  · exact .newer
  · exact .stay

theorem steers_preferencesKey (a : App) (code : KeyCode) :
    a.bearings.Steers quits a.store.entries.length (a.preferencesKey code).bearings := by
  have hdown : a.bearings.Steers quits a.store.entries.length
      (if a.cursor + 1 < a.store.entries.length
        then { a with cursor := a.cursor + 1 } else a).bearings := by
    split
    · next hlt => exact .rowDown hlt
    · exact .stay
  unfold preferencesKey
  split
  · exact hdown
  · exact hdown
  · exact .rowUp
  · exact .rowUp
  · rw [bearings_resetSelected]
    exact .stay
  · exact .stay

theorem steers_panelKey (a : App) (code : KeyCode) :
    a.bearings.Steers quits a.store.entries.length (a.panelKey code).bearings := by
  rw [panelKey]
  split
  · rw [bearings_fontsKey]
    exact .stay
  · exact steers_preferencesKey a code
  · exact .stay

end steers

/-- A key that acts on any panel shows one, ends the program or opens the history; the others are for
the panel. -/
theorem steers_globalKey (h : a.Hears e) : (a.turned e).Steers (a.Hears e ∧ e.Quits)
    a.store.entries.length ((a.globalKey? e).getD (a.panelKey e.code)).bearings := by
  have hheard := hears_iff.1 h
  have hshow : ∀ panel, a.keyPanel? e = some panel →
      (a.turned e).Steers (a.Hears e ∧ e.Quits) a.store.entries.length
        (a.showPanel panel).bearings := by
    intro panel hpanel
    have hturned : a.turned e = (a.showPanel panel).bearings := by
      rw [bearings_showPanel, turned, hpanel]
      rfl
    rw [hturned]
    exact .stay
  unfold globalKey?
  split
  · next hcode =>
    rw [turned_of_keyPanel?_eq_none (by simp [keyPanel?, hcode])]
    exact .quit ⟨h, .inl hcode⟩
  · next hcode =>
    rw [turned_of_keyPanel?_eq_none (by simp [keyPanel?, hcode])]
    split
    · next hcontrol => exact .quit ⟨h, .inr ⟨hcode, hcontrol⟩⟩
    · exact steers_panelKey a e.code
  · next hcode =>
    refine hshow .fonts ?_
    rw [keyPanel?, if_neg hheard, hcode]
    rfl
  · next hcode =>
    refine hshow .preferences ?_
    rw [keyPanel?, if_neg hheard, hcode]
    rfl
  · next hcode =>
    refine hshow .help ?_
    rw [keyPanel?, if_neg hheard, hcode]
    rfl
  · next hcode => exact hshow _ (by rw [keyPanel?, if_neg hheard, hcode])
  · next hcode => exact hshow _ (by rw [keyPanel?, if_neg hheard, hcode])
  · next hcode =>
    rw [turned_of_keyPanel?_eq_none (by simp [keyPanel?, hcode])]
    exact .openHistory h.2
  · next hother =>
    have hnone : a.keyPanel? e = none := by
      rw [keyPanel?, if_neg hheard]
      split <;> simp_all
    rw [turned_of_keyPanel?_eq_none hnone]
    exact steers_panelKey a e.code

/-- **What a key event makes of the bearings of an app.** -/
theorem steers_handleKey (a : App) (e : KeyEvent) : (a.turned e).Steers (a.Hears e ∧ e.Quits)
    a.store.entries.length (a.handleKey e).bearings := by
  rw [handleKey]
  by_cases hpress : e.motion = .press
  · rw [if_neg (by simpa using hpress)]
    cases hopen : a.historyOpen with
    | true =>
      have hnone : a.keyPanel? e = none := by simp [keyPanel?, hopen]
      rw [if_pos rfl, turned_of_keyPanel?_eq_none hnone]
      exact steers_historyKey hopen e.code _
    | false => exact steers_globalKey ⟨hpress, hopen⟩
  · have hnone : a.keyPanel? e = none := by simp [keyPanel?, hpress]
    rw [if_pos hpress, turned_of_keyPanel?_eq_none hnone]
    exact .stay

end App
end FontPreferences
