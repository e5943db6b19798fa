import FontPreferences.Proofs.App.Locking

/-
What policy locks before the page is built stays as it is.

* `Controls.Pinned c managed`: the controls bound to the preferences of `managed` are locked, the
  lists as managed ones, and the sliders show the values that policy forces;
* `pinned_newControls`: the page is built that way, and `Controls.Pinned.onEvent`: no event changes
  it, short of another lock;
* `policy_holds`: so policy holds over every run.

A locked slider has only one way to another value, which is to be brought in line with the store;
and the store has the value of policy.
-/
namespace FontPreferences

/-- The controls bound to the preferences in `managed` are locked, at the values there. -/
structure Controls.Pinned (c : Controls) (managed : KeyTable Preference.Value) : Prop where
  disabled : ∀ id : SliderId, managed.contains id.preferenceKey = true →
    (c.slider id).disabled = true
  nearest : ∀ (id : SliderId) (n : Int32), managed.get? id.preferenceKey = some (.integer n) →
    id.valueMap.Nearest (ValueMap.toRat n) (c.slider id).value
  list : ∀ id : ListId, managed.contains id.preferenceKey = true →
    (c.list id).managed = true ∧ (c.list id).disabled = true

theorem Controls.Pinned.locked {c : Controls} {managed : KeyTable Preference.Value}
    (h : c.Pinned managed) {control : Control}
    (hmanaged : managed.contains control.preferenceKey = true) : c.Locked control := by
  rw [Control.preferenceKey] at hmanaged
  rw [Locked]
  cases hkind : control.kind with
  | slider id =>
    rw [hkind] at hmanaged
    exact h.disabled id hmanaged
  | list id =>
    rw [hkind] at hmanaged
    exact h.list id hmanaged

namespace Preference.Store

/-- What policy forces on a slider is an integer. -/
theorem exists_integer_of_managed {s : Store} (h : s.OverFontDefaults) {id : SliderId}
    {value : Value} (hvalue : s.managed.get? id.preferenceKey = some value) :
    ∃ n, value = .integer n := by
  obtain ⟨n, hn⟩ := getInteger?_eq_some h id
  rw [getInteger?, get?_of_managed hvalue, Option.bind_some] at hn
  cases value with
  | integer n => exact ⟨n, rfl⟩
  | text s => exact absurd hn (by simp [Value.asInteger?])

end Preference.Store

namespace App

variable {a : App} {c : Controls}

/-- A locked slider keeps its value, unless it is brought in line with the store. -/
theorem value_slider_after (a : App) {m : Move} (hm : m ≠ .drainPreferences) {id : SliderId}
    (hdisabled : (c.slider id).disabled = true) :
    ((c.after a m).slider id).value = (c.slider id).value := by
  have hmotion : ∀ (id' : SliderId) (m' : Motion), (c.slider id').Moves m' →
      ((c.putSlider id' m'.slider).slider id).value = (c.slider id).value := by
    intro id' m' hmoves
    rw [Controls.slider_putSlider]
    split
    · next heq =>
      subst heq
      exact hmoves.value_of_disabled hdisabled
    · rfl
  cases m with
  | nudge id' step => exact hmotion id' _ (Slider.moves_nudge _ step)
  | slide id' position => exact hmotion id' _ (Slider.moves_input _ position)
  | pick id' index => rw [Controls.after, Controls.slider_putList]
  | drainPreferences => exact absurd rfl hm
  | drainWorker => rw [Controls.after, slider_foldl_received]
  | stay | appear | write | clear => rfl

theorem nearest_slider_after (hsound : a.core.Sound c) {id : SliderId} {n : Int32}
    (hn : a.store.managed.get? id.preferenceKey = some (.integer n))
    (hdisabled : (c.slider id).disabled = true)
    (h : id.valueMap.Nearest (ValueMap.toRat n) (c.slider id).value) (m : Move) :
    id.valueMap.Nearest (ValueMap.toRat n) ((c.after a m).slider id).value := by
  by_cases hm : m = .drainPreferences
  · subst hm
    rw [Controls.after]
    split
    · exact h
    · -- the value read again is the one that policy forces
      have hstored : (a.store.drain a.observer).1.getInteger? id.preferenceKey = some n := by
        rw [Preference.Store.getInteger?, Preference.Store.get?_drain,
          Preference.Store.get?_of_managed hn]
        rfl
      rw [Controls.slider_synced]
      exact Page.nearest_syncSlider (hsound.built id) hstored
  · rw [value_slider_after a hm hdisabled]
    exact h

/-- **No event frees what policy has pinned.** -/
theorem pinned_onEvent (hsound : a.core.Sound c) (h : c.Pinned a.store.managed) (e : Event) :
    (c.onEvent a e).Pinned a.store.managed := by
  refine ⟨fun id hmanaged => ?_, fun id n hn => ?_, fun id hmanaged => ?_⟩
  · rw [disabled_slider_onEvent]
    split
    · exact hmanaged
    · exact h.disabled id hmanaged
  · have hmanaged : a.store.managed.contains id.preferenceKey = true := by
      rw [KeyTable.contains, hn]
      rfl
    cases e with
    | act x => exact nearest_slider_after hsound hn (h.disabled id hmanaged) (h.nearest id n hn) _
    | receive r =>
      rw [Controls.onEvent, slider_received]
      exact h.nearest id n hn
    | respond | lock => exact h.nearest id n hn
  · obtain ⟨hlist, hdisabled⟩ := h.list id hmanaged
    exact ⟨(managed_list_onEvent a c e id).trans hlist,
      (disabled_list_onEvent a e hlist).trans hdisabled⟩

/-- The page is built with what policy locks pinned. -/
theorem pinned_newControls (store : Preference.Store) (strings : LocalizedStrings) :
    (newControls store strings).Pinned store.managed := by
  refine ⟨fun id hmanaged => ?_, fun id n hn => ?_, fun id hmanaged => ⟨?_, ?_⟩⟩
  · rw [disabled_slider_newControls]
    exact hmanaged
  · rw [newControls, Controls.slider_synced, Page.slider_startControls]
    refine Page.nearest_syncSlider (Page.builtFor_buildSlider _ id) ?_
    have hn' : store.observe.1.managed.get? id.preferenceKey = some (.integer n) := hn
    rw [Preference.Store.getInteger?, Preference.Store.get?_of_managed hn']
    rfl
  · rw [managed_list_newControls]
    exact hmanaged
  · exact disabled_list_newControls store strings id

theorem pinned_run (hsound : a.core.Sound c) (h : c.Pinned a.store.managed) {events : List Event}
    (hlock : ∀ key value, .lock key value ∉ events) :
    ∃ c', (a.run events).core.Sound c' ∧ c'.Pinned a.store.managed := by
  have hrun : (a.run events).store.managed = a.store.managed ∧
      ∃ c', (a.run events).core.Sound c' ∧ c'.Pinned a.store.managed := by
    refine run_induction (motive := fun b => b.store.managed = a.store.managed ∧
      ∃ c', b.core.Sound c' ∧ c'.Pinned a.store.managed) ⟨rfl, c, hsound, h⟩ ?_
    -- what is pinned is pinned to policy as it is at each event, which is that of the start
    rintro b ⟨hpolicy, c', hsound', h'⟩ e he
    rw [← hpolicy] at h' ⊢
    have hstep := managed_step b fun key value heq => hlock key value (heq ▸ he)
    exact ⟨hstep, _, sound_step hsound' e, pinned_onEvent hsound' h' e⟩
  exact hrun.2

open Preference in
/-- **Policy holds over every run.**  What policy forces on a store before the app is built over it
is the effective value in every state; the control bound to it is locked there, as a managed one if
it is a list, and showing the nearest permitted value if it is a slider; and an adjustment of this
control changes nothing but the status message. -/
theorem policy_holds (edits : List Store.Edit) (strings : LocalizedStrings) {events : List Event}
    (hlock : ∀ key value, .lock key value ∉ events) :
    let store := Store.withFontDefaults.edited edits
    let a := (new store strings).run events
    ∃ c, a.page.controls? = some c ∧
      ∀ key value, store.managed.get? key = some value →
        a.store.get? key = some value ∧ a.store.source? key = some .policy ∧
        (∀ id : ListId, id.preferenceKey = key →
          (c.list id).managed = true ∧ (c.list id).disabled = true) ∧
        (∀ id : SliderId, id.preferenceKey = key → (c.slider id).disabled = true ∧
          ∃ n, value = .integer n ∧
            id.valueMap.Nearest (ValueMap.toRat n) (c.slider id).value) ∧
        ∀ control : Control, control.preferenceKey = key → ∀ s,
          { a with focus := control }.adjust s = { a with
            focus := control
            status := some (control.label ++ " is managed by policy", .warning) } := by
  intro store a
  have hstart : (new store strings).store.managed = store.managed := rfl
  obtain ⟨c, hsound, hpinned⟩ := pinned_run (sound_new store strings)
    (pinned_newControls store strings) hlock
  refine ⟨c, hsound.controls, fun key value hvalue => ?_⟩
  have hpolicy : a.store.managed.get? key = some value := by
    rw [managed_run _ hlock, hstart]
    exact hvalue
  have hmanaged : store.managed.contains key = true := by
    rw [KeyTable.contains, hvalue]
    rfl
  refine ⟨Store.get?_of_managed hpolicy, Store.source?_of_managed hpolicy, fun id hkey => ?_,
    fun id hkey => ⟨?_, ?_⟩, fun control hkey s => ?_⟩
  · exact hpinned.list id (hkey ▸ hmanaged)
  · exact hpinned.disabled id (hkey ▸ hmanaged)
  · subst hkey
    obtain ⟨n, rfl⟩ :=
      Store.exists_integer_of_managed (Store.overFontDefaults_edited edits) hvalue
    exact ⟨n, rfl, hpinned.nearest id n hvalue⟩
  · exact adjust_eq_of_locked (a := { a with focus := control }) hsound.controls
      (hpinned.locked (hkey ▸ hmanaged)) s

open Preference in
/-- A size between two permitted ones and a family, both locked over values of the user, through an
answer of the worker and a write to each. -/
theorem policy_holds_through_answer :
    let store := Store.withFontDefaults.edited [.set serifFamilyKey (.text "Arial") "page",
      .lock serifFamilyKey (.text "Georgia"), .lock fontSizeKey (.integer 23)]
    let events : List Event := [.act (.showPanel .fonts),
      .receive (.fonts [⟨"Arial", "Arial"⟩, ⟨"Georgia", "Georgia"⟩] [] ["Georgia", "", ""]),
      .act (.pick .serifFamily 0), .act (.slide .serifSize 0),
      .act (.write fontSizeKey (.integer 9) "sync"),
      .act (.write minimumFontSizeKey (.integer 9) "sync"), .act .drainPreferences]
    let a := (new store default).run events
    a.store.get? serifFamilyKey = some (.text "Georgia") ∧
    ∃ c, a.page.controls? = some c ∧ (c.list .serifFamily).managed = true ∧
      SliderId.serifSize.valueMap.Nearest (ValueMap.toRat 23) (c.slider .serifSize).value := by
  intro store events a
  have hlock : ∀ key value, .lock key value ∉ events := by simp [events]
  have hserif : store.managed.get? serifFamilyKey = some (.text "Georgia") := by
    decide +kernel +zetaReduce
  have hsize : store.managed.get? fontSizeKey = some (.integer 23) := by
    decide +kernel +zetaReduce
  obtain ⟨c, hc, hall⟩ := policy_holds [.set serifFamilyKey (.text "Arial") "page",
    .lock serifFamilyKey (.text "Georgia"), .lock fontSizeKey (.integer 23)] default hlock
  obtain ⟨hget, -, hlist, -⟩ := hall serifFamilyKey _ hserif
  obtain ⟨-, -, -, hslider, -⟩ := hall fontSizeKey _ hsize
  obtain ⟨-, n, hn, hnearest⟩ := hslider .serifSize rfl
  cases hn
  exact ⟨hget, c, hc, (hlist .serifFamily rfl).1, hnearest⟩

end App
end FontPreferences
