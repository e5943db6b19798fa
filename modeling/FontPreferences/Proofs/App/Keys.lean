import FontPreferences.Proofs.App.Locking
import FontPreferences.Proofs.App.Steering
import FontPreferences.Proofs.Page.Writes

/-
What a key can reach.

* `KeyEffect a e m`: the moves that a key event can be, each with what makes it this one, and
  `keyEffect_keyMove`: it is one of them;
* `Page.Spares p q touched`, `Store.Spares s t touched`: nothing but what is touched has changed from
  the one to the other;
* `spares_page_move`, `spares_store_move`: what a move of a key touches;
* `Confined a e b`: all that `b` may differ in from `a` after a key event, and `keys_confined`: it
  differs in no more.
-/
namespace FontPreferences

open Preference (Store)

namespace Control

/-- The preference that repeats the one of a control. -/
def mirrorKey? : Control → Option String
  | .minimumSize => some Preference.minimumLogicalFontSizeKey
  | .serifFamily => some Preference.sansSerifFamilyKey
  | .serifSize | .fixedFamily | .fixedSize | .encoding => none

/-- The preferences that a control may write. -/
def keys (control : Control) : List String :=
  control.preferenceKey :: control.mirrorKey?.toList

end Control

/-! ### What is touched -/

namespace Preference.Store

/-- From `s` to `t`, only user values have changed, at keys that are touched. -/
structure Spares (s t : Store) (touched : String → Prop) : Prop where
  defaults : t.defaults = s.defaults
  managed : t.managed = s.managed
  user : ∀ key, ¬touched key → t.user.get? key = s.user.get? key

variable {s t u : Store} {touched touched' : String → Prop}

theorem Spares.refl (s : Store) (touched : String → Prop) : s.Spares s touched :=
  ⟨rfl, rfl, fun _ _ => rfl⟩

theorem Spares.trans (h : s.Spares t touched) (h' : t.Spares u touched) : s.Spares u touched := by
  refine ⟨h'.defaults.trans h.defaults, h'.managed.trans h.managed, ?_⟩
  intro key hkey
  exact (h'.user key hkey).trans (h.user key hkey)

theorem Spares.mono (h : s.Spares t touched) (hsub : ∀ key, touched key → touched' key) :
    s.Spares t touched' :=
  ⟨h.defaults, h.managed, fun key hkey => h.user key fun htouched => hkey (hsub key htouched)⟩

theorem spares_attempt (s : Store) (key : String) (value : Value) (origin : String) :
    s.Spares (s.attempt key value origin) (· = key) :=
  ⟨attempt_defaults .., attempt_managed .., fun _ hk => user_attempt_of_ne hk value origin⟩

theorem spares_attemptClear (s : Store) (key : String) :
    s.Spares (s.attemptClear key) (· = key) :=
  ⟨attemptClear_defaults .., attemptClear_managed .., fun _ hk => user_attemptClear_of_ne hk⟩

end Preference.Store

/-- Writes touch the keys that they are to. -/
theorem Write.spares_attemptAll (store : Store) (writes : List Write) :
    store.Spares (attemptAll store writes) (· ∈ writes.map Write.key) := by
  induction writes generalizing store with
  | nil => exact .refl store _
  | cons w writes ih =>
    have hfirst : store.Spares (w.attempt store) (· = w.key) :=
      Store.spares_attempt store w.key w.value origin
    refine (hfirst.mono fun key hkey => ?_).trans ((ih (w.attempt store)).mono fun key hkey => ?_)
    · exact List.mem_map.2 ⟨w, List.mem_cons_self, hkey.symm⟩
    · exact List.mem_cons_of_mem _ hkey

namespace Page

/-- From `p` to `q`, only controls that are touched have changed, and their samples. -/
structure Spares (p q : Page) (touched : ControlKind → Prop) : Prop where
  slider : ∀ id, ¬touched (.slider id) → q.slider? id = p.slider? id
  list : ∀ id, ¬touched (.list id) → q.list? id = p.list? id
  sample : ∀ id, ¬touched (.slider id) → q.samples.get id = p.samples.get id

variable {p q : Page} {touched touched' : ControlKind → Prop}

theorem Spares.mono (h : p.Spares q touched) (hsub : ∀ k, touched k → touched' k) :
    p.Spares q touched' := by
  refine ⟨fun id hid => h.slider id ?_, fun id hid => h.list id ?_, fun id hid => h.sample id ?_⟩
  all_goals exact fun htouched => hid (hsub _ htouched)

theorem spares_of_controls?_eq (hcontrols : q.controls? = p.controls?)
    (hsamples : q.samples = p.samples) (touched : ControlKind → Prop) : p.Spares q touched := by
  refine ⟨fun id _ => ?_, fun id _ => ?_, fun id _ => by rw [hsamples]⟩
  · rw [slider?, hcontrols, slider?]
  · rw [list?, hcontrols, list?]

theorem Spares.refl (p : Page) (touched : ControlKind → Prop) : p.Spares p touched :=
  spares_of_controls?_eq rfl rfl touched

theorem spares_appear (p : Page) (touched : ControlKind → Prop) : p.Spares p.appear.1 touched :=
  spares_of_controls?_eq (appear_controls? p) (appear_samples p) touched

theorem spares_nudge (h : p.Built) (id : SliderId) (step : Step) :
    p.Spares (p.nudge id step).page (· = .slider id) := by
  cases hc : p.controls? with
  | none =>
    rw [nudge, hc]
    exact .refl p _
  | some c =>
    have hbuilt := h c hc id
    have hmoves := Slider.moves_nudge (c.slider id) step
    have hcontrols := takeMotion_controls? hc hbuilt hmoves
    rw [nudge, hc]
    refine ⟨fun id' hid => ?_, fun id' _ => ?_, fun id' hid => ?_⟩
    · have hne : id' ≠ id := fun heq => hid (by rw [heq])
      rw [slider?, hcontrols, slider?, hc, Option.map_some, Controls.slider_putSlider, if_neg hne]
      rfl
    · rw [list?, hcontrols, list?, hc, Option.map_some, Controls.list_putSlider]
      rfl
    · have hne : id' ≠ id := fun heq => hid (by rw [heq])
      rw [takeMotion_samples p c hbuilt hmoves]
      split
      · rfl
      · exact if_neg hne

theorem spares_select (p : Page) (id : ListId) (index : Nat) :
    p.Spares (p.select id index).page (· = .list id) := by
  rw [select]
  split
  · exact .refl p _
  · next c hc =>
    have hcontrols := withControls_controls? hc (c.putList id ((c.list id).select index).1)
    refine ⟨fun id' _ => ?_, fun id' hid => ?_, fun id' _ => ?_⟩
    · rw [slider?, hcontrols, slider?, hc, Option.map_some, Controls.slider_putList]
      rfl
    · have hne : id' ≠ id := fun heq => hid (by rw [heq])
      rw [list?, hcontrols, list?, hc, Option.map_some, Controls.list_putList, if_neg hne]
      rfl
    · rw [withControls_samples]

end Page

namespace App

variable {a : App} {e : KeyEvent}

/-! ### The moves of a key -/

/-- The moves that a key event can be. -/
inductive KeyEffect (a : App) (e : KeyEvent) : Move → Prop where
  | stay : KeyEffect a e .stay
  | appear (h : a.keyPanel? e = some .fonts) : KeyEffect a e .appear
  | nudge (h : a.Adjusts e) {id : SliderId} (hfocus : a.focus.kind = .slider id) (step : Step) :
      KeyEffect a e (.nudge id step)
  | pick (h : a.Adjusts e) {id : ListId} (hfocus : a.focus.kind = .list id) (index : Nat) :
      KeyEffect a e (.pick id index)
  | clear (h : a.Resets e) {entry : Preference.Entry}
      (hentry : a.store.entries[a.cursor]? = some entry)
      (hfree : a.store.isManaged entry.key = false) : KeyEffect a e (.clear entry.key)

theorem keyEffect_adjustMove (h : a.Adjusts e) (step : Step) :
    a.KeyEffect e (a.adjustMove step) := by
  rw [adjustMove]
  split
  · next id hfocus =>
    split
    · exact .stay
    · exact .nudge h hfocus step
  · next id hfocus =>
    split
    · exact .stay
    · split
      · exact .stay
      · exact .pick h hfocus _

theorem keyEffect_resetMove (h : a.Resets e) : a.KeyEffect e a.resetMove := by
  rw [resetMove]
  split
  · exact .stay
  · next entry hentry =>
    cases hmanaged : a.store.isManaged entry.key with
    | true => exact .stay
    | false => exact .clear h hentry hmanaged

theorem keyEffect_panelKeyMove (h : a.Hears e) : a.KeyEffect e (a.panelKeyMove e.code) := by
  rw [panelKeyMove]
  split
  · next hpanel =>
    unfold fontsKeyMove
    split
    · next hcode => exact keyEffect_adjustMove ⟨h, hpanel, by simp [hcode]⟩ .decrease
    · next hcode => exact keyEffect_adjustMove ⟨h, hpanel, by simp [hcode]⟩ .decrease
    · next hcode => exact keyEffect_adjustMove ⟨h, hpanel, by simp [hcode]⟩ .increase
    · next hcode => exact keyEffect_adjustMove ⟨h, hpanel, by simp [hcode]⟩ .increase
    · exact .stay
  · next hpanel =>
    split
    · next hcode => exact keyEffect_resetMove ⟨h, hpanel, hcode⟩
    · exact .stay
  · exact .stay

/-- **What a key event can do to the core.** -/
theorem keyEffect_keyMove (a : App) (e : KeyEvent) : a.KeyEffect e (a.keyMove e) := by
  rw [keyMove]
  cases hpanel : a.keyPanel? e with
  | some panel =>
    cases panel with
    | fonts => exact .appear hpanel
    | preferences => exact .stay
    | help => exact .stay
  | none =>
    dsimp only
    split
    · exact .stay
    · next hheard => exact keyEffect_panelKeyMove (hears_iff.2 hheard)

/-! ### What the moves of a key touch -/

theorem spares_page_move (h : a.page.Built) {m : Move} (hm : a.KeyEffect e m) :
    a.page.Spares (a.move m).page fun k => a.Adjusts e ∧ k = a.focus.kind := by
  cases hm with
  | stay => exact .refl a.page _
  | appear hpanel =>
    show a.page.Spares (a.showPanel .fonts).page _
    rw [showPanel_page]
    exact Page.spares_appear a.page _
  | nudge hadjusts hfocus step =>
    exact (Page.spares_nudge h _ step).mono fun k hk => ⟨hadjusts, hk.trans hfocus.symm⟩
  | pick hadjusts hfocus index =>
    exact (Page.spares_select a.page _ index).mono fun k hk => ⟨hadjusts, hk.trans hfocus.symm⟩
  | clear hresets hentry hfree => exact .refl a.page _

/-- An operation of the page writes the keys of the control that it is about. -/
theorem mem_keys_of_mem_writes (h : a.page.Built) (event : PageEvent)
    (hkeys : event.keys ⊆ a.focus.keys) {key : String}
    (hkey : key ∈ ((Mounted.mk a.page a.store).outcome event).writes.map Write.key) :
    key ∈ a.focus.keys := by
  have hbuilt : (Mounted.mk a.page a.store).page.Built := h
  rw [Mounted.outcome_writes hbuilt, Mounted.writesTo] at hkey
  obtain ⟨w, hw, rfl⟩ := List.mem_map.1 hkey
  obtain ⟨value, -, hvalue⟩ := List.mem_flatMap.1 hw
  obtain ⟨k, hk, rfl⟩ := List.mem_map.1 hvalue
  exact hkeys hk

theorem keys_nudge_subset {control : Control} {id : SliderId} (h : control.kind = .slider id)
    (step : Step) : (PageEvent.nudge id step).keys ⊆ control.keys := by
  cases control <;> cases h <;> simp [PageEvent.keys, Control.keys, Control.preferenceKey,
    Control.kind, Control.mirrorKey?]

theorem keys_pick_subset {control : Control} {id : ListId} (h : control.kind = .list id)
    (index : Nat) : (PageEvent.pick id index).keys ⊆ control.keys := by
  cases control <;> cases h <;> simp [PageEvent.keys, Control.keys, Control.preferenceKey,
    Control.kind, Control.mirrorKey?]

/-- The keys that a key event may touch: those of the control with the focus, or the one under the
cursor if policy leaves it free. -/
def Reaches (a : App) (e : KeyEvent) (key : String) : Prop :=
  (a.Adjusts e ∧ key ∈ a.focus.keys) ∨
    (a.Resets e ∧ a.store.isManaged key = false ∧
      (a.store.entries[a.cursor]?).map (·.key) = some key)

theorem spares_store_move (h : a.page.Built) {m : Move} (hm : a.KeyEffect e m) :
    a.store.Spares (a.move m).store (a.Reaches e) := by
  cases hm with
  | stay => exact .refl a.store _
  | appear hpanel =>
    show a.store.Spares (a.showPanel .fonts).store _
    obtain ⟨requests, heq⟩ := showPanel_fonts a
    rw [heq]
    exact .refl a.store _
  | nudge hadjusts hfocus step =>
    refine (Write.spares_attemptAll a.store _).mono fun key hkey => .inl ⟨hadjusts, ?_⟩
    exact mem_keys_of_mem_writes h (.nudge _ step) (keys_nudge_subset hfocus step) hkey
  | pick hadjusts hfocus index =>
    refine (Write.spares_attemptAll a.store _).mono fun key hkey => .inl ⟨hadjusts, ?_⟩
    exact mem_keys_of_mem_writes h (.pick _ index) (keys_pick_subset hfocus index) hkey
  | clear hresets hentry hfree =>
    refine (Store.spares_attemptClear a.store _).mono fun key hkey => .inr ⟨hresets, ?_⟩
    rw [hkey, hentry]
    exact ⟨hfree, rfl⟩

theorem store_move_of_still {m : Move} (hm : a.KeyEffect e m) (hadjusts : ¬a.Adjusts e)
    (hresets : ¬a.Resets e) : (a.move m).store = a.store := by
  cases hm with
  | stay => rfl
  | appear hpanel =>
    show (a.showPanel .fonts).store = a.store
    obtain ⟨requests, heq⟩ := showPanel_fonts a
    rw [heq]
  | nudge h => exact absurd h hadjusts
  | pick h => exact absurd h hadjusts
  | clear h => exact absurd h hresets

/-! ### What keys send -/

theorem requests_keyMove (a : App) (e : KeyEvent) : (a.move (a.keyMove e)).requests = a.requests ++
    if a.keyPanel? e = some .fonts ∧ a.page.isInitialized = true ∧ a.page.hasShown = false ∧
      a.workerAlive = true then [⟨selectedValues a.store⟩] else [] := by
  by_cases hfonts : a.keyPanel? e = some .fonts
  · have hmove : a.keyMove e = .appear := (moveOf_eq_appear a (.key e)).2 hfonts
    rw [hmove]
    simp only [hfonts, true_and]
    exact requests_showPanel_fonts a
  · simp only [hfonts, false_and, if_false, List.append_nil]
    have heffect := keyEffect_keyMove a e
    generalize a.keyMove e = m at heffect
    cases heffect with
    | appear hpanel => exact absurd hpanel hfonts
    | stay | nudge | pick | clear => rfl

/-- The keys that can show the Fonts panel. -/
theorem mem_of_keyPanel?_eq_fonts (h : a.keyPanel? e = some .fonts) :
    a.Hears e ∧ e.code ∈ [.char '1', .tab, .backTab] := by
  rw [keyPanel?] at h
  split at h
  · exact absurd h (by simp)
  · next hheard =>
    refine ⟨hears_iff.2 hheard, ?_⟩
    split at h <;> simp_all

/-! ### A key event -/

theorem handleKey_of_motion_ne (h : e.motion ≠ .press) : a.handleKey e = a := by
  rw [handleKey, if_pos h]

/-- The open history keeps every key to itself. -/
theorem exists_handleKey_of_historyOpen (h : a.historyOpen = true) (e : KeyEvent) :
    ∃ isOpen scroll, a.handleKey e = { a with historyOpen := isOpen, errorScroll := scroll } := by
  by_cases hpress : e.motion = .press
  · rw [handleKey, if_neg (by simpa using hpress), if_pos h]
    unfold historyKey
    split
    · exact ⟨_, _, rfl⟩
    · exact ⟨_, _, rfl⟩
    · exact ⟨_, _, rfl⟩
    · split <;> exact ⟨_, _, rfl⟩
    · split <;> exact ⟨_, _, rfl⟩
    · exact ⟨_, _, rfl⟩
    · exact ⟨_, _, rfl⟩
    · exact ⟨_, _, rfl⟩
  · rw [handleKey_of_motion_ne hpress]
    exact ⟨_, _, rfl⟩

theorem handleKey_of_quits (h : a.Hears e) (hquits : e.Quits) : a.handleKey e = a.quit := by
  rw [handleKey, if_neg (by simpa using h.1), if_neg (by simp [h.2]), globalKey?]
  rcases hquits with hcode | ⟨hcode, hcontrol⟩
  · rw [hcode]
    rfl
  · rw [hcode]
    show (if e.control then some a.quit else none).getD _ = a.quit
    rw [if_pos hcontrol]
    rfl

theorem running_handleKey (a : App) (e : KeyEvent) :
    (a.handleKey e).running = if a.Hears e ∧ e.Quits then false else a.running := by
  by_cases hquits : a.Hears e ∧ e.Quits
  · rw [if_pos hquits, handleKey_of_quits hquits.1 hquits.2]
    rfl
  · rw [if_neg hquits]
    exact (steers_handleKey a e).running hquits

theorem panel_handleKey (a : App) (e : KeyEvent) :
    (a.handleKey e).panel = (a.keyPanel? e).getD a.panel :=
  (steers_handleKey a e).panel

/-- All that an app `b` may differ in from `a` after a key event. -/
structure Confined (a : App) (e : KeyEvent) (b : App) : Prop where
  silent : e.motion ≠ .press → b = a
  history : a.historyOpen = true →
    ∃ isOpen scroll, b = { a with historyOpen := isOpen, errorScroll := scroll }
  page : a.page.Spares b.page fun k => a.Adjusts e ∧ k = a.focus.kind
  store : a.store.Spares b.store (a.Reaches e)
  still : ¬a.Adjusts e → ¬a.Resets e → b.store = a.store
  running : b.running = if a.Hears e ∧ e.Quits then false else a.running
  panel : b.panel = (a.keyPanel? e).getD a.panel
  shows : a.keyPanel? e = some .fonts → a.Hears e ∧ e.code ∈ [.char '1', .tab, .backTab]
  requests : b.requests = a.requests ++
    if a.keyPanel? e = some .fonts ∧ a.page.isInitialized = true ∧ a.page.hasShown = false ∧
      a.workerAlive = true then [⟨selectedValues a.store⟩] else []

theorem confined_handleKey (h : a.page.Built) (e : KeyEvent) : a.Confined e (a.handleKey e) := by
  have hcore := core_handleKey a e
  have hpage : (a.handleKey e).page = (a.move (a.keyMove e)).page := congrArg Core.page hcore
  have hstore : (a.handleKey e).store = (a.move (a.keyMove e)).store := congrArg Core.store hcore
  have hrequests : (a.handleKey e).requests = (a.move (a.keyMove e)).requests :=
    congrArg Core.requests hcore
  have heffect := keyEffect_keyMove a e
  exact {
    silent := handleKey_of_motion_ne
    history := fun hopen => exists_handleKey_of_historyOpen hopen e
    page := hpage ▸ spares_page_move h heffect
    store := hstore ▸ spares_store_move h heffect
    still := fun hadjusts hresets => hstore.trans (store_move_of_still heffect hadjusts hresets)
    running := running_handleKey a e
    panel := panel_handleKey a e
    shows := mem_of_keyPanel?_eq_fonts
    requests := hrequests.trans (requests_keyMove a e) }

/-- **Keys act only where they should.**  Take an app with any page that operations can lead to, and
otherwise in any state, and any key event.

* What is no press changes nothing.
* Over an open error history only this, and the place in it, can change.
* Otherwise a control, with its sample, can change only by `h`, `l` or an arrow to the side on the Fonts
  panel, and only if it has the focus.  The store can change only by these keys, and then in the user
  values of the control's preference and of the one that repeats it; or by `r` on the Preferences panel,
  and then in the user value of the preference under the cursor if policy leaves it free.
* The app stops exactly by `q` and by `c` with Control.
* A request is sent exactly if the key shows the Fonts panel, which only `1`, Tab and BackTab can, and
  the page has its controls, has not been shown before, and somebody listens. -/
theorem keys_confined (rest : App) (strings : LocalizedStrings) (store : Store)
    (events : List PageEvent) (e : KeyEvent) :
    let a := { rest with page := ((Mounted.new strings store).run events).page }
    a.Confined e (a.handleKey e) := by
  intro a
  have hbuilt : a.page.Built := Mounted.built_run strings store events
  exact confined_handleKey hbuilt e

end App
end FontPreferences
