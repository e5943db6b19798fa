import FontPreferences.Proofs.App.Run

/-
When a policy lock reaches the controls of a page that is already built.

Policy can lock a key at any moment of a run.  The page learns of it in two ways:

* a slider is locked when the page reads the store again, which it does when the app takes changes,
  and there is a change to take if the lock forces another value (`quiet_attemptLock_iff`);
* a list is locked when it is built, and never afterwards.

`Noticed` says of a run that changes were taken in it while a key was locked, and
`locked_iff_noticed` says exactly which controls are locked after a run.  A locked control answers an
adjustment with a warning and nothing else (`adjust_eq_of_locked`); and no control can change the value of a locked key
(`get?_adjust_of_isManaged`).
-/
namespace FontPreferences

/-! ### Locks in a store -/

namespace Preference
namespace Store

/-- An accepted lock is silent exactly if it forces the value that is effective already. -/
theorem quiet_attemptLock_iff {s : Store} {key : String} {value : Value}
    (hfault : s.fault? key value = none) (o : Nat) :
    (s.attemptLock key value).Quiet o ↔ s.Quiet o ∧ s.get? key = some value := by
  have hvalue : Store.get? { s with managed := s.managed.insert key value } key = some value := by
    simp [get?, KeyTable.get?_insert]
  have hlock : s.attemptLock key value
      = { s with managed := s.managed.insert key value }.notifyIfChanged key (s.get? key)
          "policy" := by
    rw [attemptLock, setManaged, hfault]
  rw [hlock, notifyIfChanged, hvalue]
  dsimp only
  split
  · next hsame => exact ⟨fun h => ⟨h, hsame⟩, fun h => h.1⟩
  · next hother =>
    refine ⟨fun h => absurd h (not_quiet_notify _ _ o), fun h => absurd h.2 hother⟩

end Store
end Preference

/-! ### Locked controls -/

/-- The preference that a control is bound to. -/
def Control.preferenceKey (control : Control) : String :=
  match control.kind with
  | .slider id => id.preferenceKey
  | .list id => id.preferenceKey

/-- Whether a control is locked: a slider by being disabled, a list by being managed and
disabled. -/
def Controls.Locked (c : Controls) (control : Control) : Prop :=
  match control.kind with
  | .slider id => (c.slider id).disabled = true
  | .list id => (c.list id).managed = true ∧ (c.list id).disabled = true

namespace App

/-- In the run of `events`, changes were taken at a moment when policy locked the key. -/
def Noticed (a : App) (events : List Event) (key : String) : Prop :=
  Met a.run (fun b e => e = .act .drainPreferences ∧ ¬b.store.Quiet b.observer ∧
    b.store.isManaged key = true) events

variable {a : App} {c : Controls}

/-! ### What an event does to the locks -/

/-- The slider locks are read again when there are changes to take, and at no other time. -/
theorem disabled_slider_onEvent (a : App) (c : Controls) (e : Event) (id : SliderId) :
    ((c.onEvent a e).slider id).disabled
      = if e = .act .drainPreferences ∧ ¬a.store.Quiet a.observer
        then a.store.isManaged id.preferenceKey else (c.slider id).disabled := by
  cases e with
  | act x =>
    rw [Controls.onEvent]
    by_cases hx : x = .drainPreferences
    · subst hx
      by_cases hquiet : a.store.Quiet a.observer
      · simp [moveOf, Controls.after, hquiet]
      · simp only [moveOf, Controls.after, hquiet, if_false, not_false_eq_true, and_self, if_true]
        rw [Controls.slider_synced, Page.syncSlider_disabled, Preference.Store.isManaged,
          Preference.Store.drain_managed, Preference.Store.isManaged]
    · rw [disabled_slider_after (mt (moveOf_eq_drainPreferences a x).1 hx)]
      simp [hx]
  | respond r => simp [Controls.onEvent]
  | receive r => simp [Controls.onEvent, slider_received]
  | lock key value => simp [Controls.onEvent]

theorem managed_list_onEvent (a : App) (c : Controls) (e : Event) (id : ListId) :
    ((c.onEvent a e).list id).managed = (c.list id).managed := by
  cases e with
  | act x => exact managed_list_after c a _ id
  | receive r => exact managed_received c r id
  | respond | lock => rfl

theorem disabled_list_onEvent (a : App) {c : Controls} (e : Event) {id : ListId}
    (h : (c.list id).managed = true) :
    ((c.onEvent a e).list id).disabled = (c.list id).disabled := by
  cases e with
  | act x => exact disabled_list_after a _ h
  | receive r => exact disabled_received c r h
  | respond | lock => rfl

/-- Policy never gives a key free. -/
theorem isManaged_step (a : App) (e : Event) {key : String} (h : a.store.isManaged key = true) :
    (a.step e).store.isManaged key = true := by
  cases e with
  | act x =>
    rw [step, Preference.Store.isManaged, managed_act]
    exact h
  | respond r => exact h
  | receive r =>
    rw [step, receive_store]
    exact h
  | lock key' value => exact Preference.Store.isManaged_attemptLock h key' value

/-! ### Runs -/

/-- The controls `c` are locked as policy was at the start, and as the page has noticed since. -/
structure LockedAsNoticed (a : App) (events : List Event) (c : Controls) : Prop where
  sound : (a.run events).core.Sound c
  slider : ∀ id : SliderId, (c.slider id).disabled = true ↔
    a.store.isManaged id.preferenceKey = true ∨ a.Noticed events id.preferenceKey
  sliderManaged : ∀ id : SliderId, (c.slider id).disabled = true →
    (a.run events).store.isManaged id.preferenceKey = true
  list : ∀ id : ListId, (c.list id).managed = a.store.isManaged id.preferenceKey
  listDisabled : ∀ id : ListId, (c.list id).managed = true → (c.list id).disabled = true

theorem LockedAsNoticed.append {events : List Event} (h : a.LockedAsNoticed events c) (e : Event) :
    a.LockedAsNoticed (events ++ [e]) (c.onEvent (a.run events) e) := by
  have hrun : a.run (events ++ [e]) = (a.run events).step e := run_append a events [e]
  have hdisabled := disabled_slider_onEvent (a.run events) c e
  refine ⟨hrun ▸ sound_step h.sound e, fun id => ?_, fun id hd => ?_, fun id => ?_, fun id hm => ?_⟩
  · rw [hdisabled, Noticed, met_append_singleton]
    by_cases hdrain : e = .act .drainPreferences ∧
        ¬(a.run events).store.Quiet (a.run events).observer
    · -- the locks are read again, and policy has kept those of before
      rw [if_pos hdrain]
      refine ⟨fun hm => .inr (.inr ⟨hdrain.1, hdrain.2, hm⟩), ?_⟩
      rintro (hstart | hnoticed | ⟨-, -, hm⟩)
      · exact h.sliderManaged id ((h.slider id).2 (.inl hstart))
      · exact h.sliderManaged id ((h.slider id).2 (.inr hnoticed))
      · exact hm
    · rw [if_neg hdrain, h.slider id]
      -- an event that takes no changes is not one that notices
      refine ⟨Or.imp_right .inl, Or.imp_right fun hn => ?_⟩
      exact hn.resolve_right fun ⟨he, hquiet, _⟩ => hdrain ⟨he, hquiet⟩
  · rw [hrun]
    refine isManaged_step _ e ?_
    rw [hdisabled] at hd
    split at hd
    · exact hd
    · exact h.sliderManaged id hd
  · rw [managed_list_onEvent]
    exact h.list id
  · rw [managed_list_onEvent] at hm
    rw [disabled_list_onEvent _ e hm]
    exact h.listDisabled id hm

theorem lockedAsNoticed_new (store : Preference.Store) (strings : LocalizedStrings) :
    (new store strings).LockedAsNoticed [] (newControls store strings) := by
  refine ⟨sound_new store strings, fun id => ?_, fun id hd => ?_, fun id => ?_, fun id _ => ?_⟩
  · rw [disabled_slider_newControls]
    exact ⟨.inl, fun h => h.resolve_right not_met_nil⟩
  · rw [disabled_slider_newControls] at hd
    exact hd
  · exact managed_list_newControls store strings id
  · exact disabled_list_newControls store strings id

theorem lockedAsNoticed_run (store : Preference.Store) (strings : LocalizedStrings)
    (events : List Event) : ∃ c, (new store strings).LockedAsNoticed events c := by
  induction events using List.reverseRecOn with
  | nil => exact ⟨_, lockedAsNoticed_new store strings⟩
  | append_singleton events e ih =>
    obtain ⟨c, hc⟩ := ih
    exact ⟨_, hc.append e⟩

/-! ### What a lock does -/

/-- A locked control refuses to be adjusted: all that comes of it is a warning. -/
theorem adjust_eq_of_locked {a : App} (h : a.page.controls? = some c) (hlocked : c.Locked a.focus)
    (s : Step) : a.adjust s = a.warnManaged a.focus.label := by
  rw [Controls.Locked] at hlocked
  rw [adjust, Control.label]
  cases hkind : a.focus.kind with
  | slider id =>
    rw [hkind] at hlocked
    have hany : (a.page.slider? id).any (·.disabled) = true := by
      rw [Page.slider?, h]
      exact hlocked
    dsimp only
    rw [adjustSlider, if_pos hany]
  | list id =>
    rw [hkind] at hlocked
    dsimp only
    rw [adjustList, Page.list?_eq h]
    dsimp only
    rw [if_pos hlocked.1]

theorem adjust_of_locked {a : App} (h : a.page.controls? = some c) (hlocked : c.Locked a.focus)
    (s : Step) : (a.adjust s).page = a.page ∧ (a.adjust s).store = a.store := by
  rw [adjust_eq_of_locked h hlocked]
  exact ⟨rfl, rfl⟩

/-- Whatever is adjusted, the value of a locked key stays. -/
theorem get?_adjust_of_isManaged (a : App) (s : Step) {key : String}
    (h : a.store.isManaged key = true) : (a.adjust s).store.get? key = a.store.get? key := by
  have hstore : (a.adjust s).store = (a.move (a.adjustMove s)).store :=
    congrArg Core.store (core_adjust a s)
  -- the managed layer comes first and no move touches it
  rw [Preference.Store.isManaged, KeyTable.contains] at h
  obtain ⟨v, hv⟩ := Option.isSome_iff_exists.1 h
  rw [hstore, Preference.Store.get?, managed_move, Preference.Store.get?, hv]
  rfl

/-- **Which controls are locked.**  After any run that ends by taking the changes, a control is
locked exactly if policy managed its preference when the page was built or, for a slider, at a
moment when there were changes to take.  What is locked does not let itself be adjusted, and no
adjustment changes the value of a managed preference. -/
theorem locked_iff_noticed (store : Preference.Store) (strings : LocalizedStrings)
    (events : List Event) :
    let drained := events ++ [.act .drainPreferences]
    let a := (new store strings).run drained
    ∃ c, a.page.controls? = some c ∧
      (∀ control : Control, c.Locked control ↔ store.isManaged control.preferenceKey = true ∨
        (control.slider?.isSome = true ∧
          (new store strings).Noticed drained control.preferenceKey)) ∧
      (∀ control : Control, c.Locked control → ∀ s, let b := { a with focus := control }.adjust s
        b.page = a.page ∧ b.store = a.store) ∧
      ∀ control : Control, a.store.isManaged control.preferenceKey = true → ∀ s,
        ({ a with focus := control }.adjust s).store.get? control.preferenceKey
          = a.store.get? control.preferenceKey := by
  intro drained a
  obtain ⟨c, hc⟩ := lockedAsNoticed_run store strings drained
  refine ⟨c, hc.sound.controls, fun control => ?_, fun control hlocked s => ?_, ?_⟩
  · rw [Controls.Locked, Control.preferenceKey, Control.slider?]
    cases control.kind with
    | slider id => exact (hc.slider id).trans (or_congr_right (by simp))
    | list id =>
      refine ⟨fun h => .inl ((hc.list id).symm.trans h.1), ?_⟩
      rintro (hmanaged | ⟨hslider, -⟩)
      · have hlist := (hc.list id).trans hmanaged
        exact ⟨hlist, hc.listDisabled id hlist⟩
      · exact absurd hslider (by simp)
  · exact adjust_of_locked (a := { a with focus := control }) hc.sound.controls hlocked s
  · intro control hmanaged s
    exact get?_adjust_of_isManaged { a with focus := control } s hmanaged

open Preference in
/-- A lock reaches neither a list that is filled, which goes on to show other values though the
store refuses them, nor a slider whose value it keeps. -/
theorem lock_without_effect :
    let filled := (new .withFontDefaults default).step
      (.receive (.fonts [⟨"Georgia", "Georgia"⟩, ⟨"Times New Roman", "Times New Roman"⟩] []
        ["Times New Roman", "Georgia", ""]))
    let a := filled.run [.lock serifFamilyKey (.text "Georgia"), .act .drainPreferences]
    let b := (new .withFontDefaults default).run
      [.lock fontSizeKey (.integer 16), .act .drainPreferences]
    (a.store.isManaged serifFamilyKey = true ∧
      (a.page.list? .serifFamily).map (fun l => (l.managed, l.disabled)) = some (false, false) ∧
      (a.adjust .increase).page.list? .serifFamily ≠ a.page.list? .serifFamily) ∧
    b.store.isManaged fontSizeKey = true ∧
    (b.page.slider? .serifSize).map (·.disabled) = some false := by
  decide +kernel

end App
end FontPreferences
