import FontPreferences.Proofs.App.Run

/-
Sliders and samples follow the store.

A value of the page lives in four places: the store, the slider, the sample that the slider's hook
renders, and the changes that wait for the app.  Between them hold

* `Previews`: every sample shows what its slider stands at, at any moment;
* `InLine`: every slider stands at the permitted value nearest to its preference, and the samples
  show the stored families, whenever no change waits;
* `Follows`: both, and a slider is locked exactly if policy locks its preference.

`follows_step` keeps this through every event but a lock, and `sliders_follow_store` is what it says
of a run.
-/
namespace FontPreferences
namespace Core

/-- Every sample shows the sentence in the size that its slider stands at, and the minimum one is
given no family. -/
structure Previews (k : Core) (c : Controls) (strings : LocalizedStrings) : Prop where
  strings_eq : k.page.strings = strings
  text : ∀ id : SliderId, (k.page.samples.get id).text
    = toString (c.slider id).value.toInt ++ "pt: " ++ strings.get LocalizedStrings.sampleSentence
  size : ∀ id : SliderId, (k.page.samples.get id).size = some (c.slider id).value
  minimum : (k.page.samples.get .minimumSize).family = none

/-- The sliders stand at the permitted values nearest to their preferences, and the samples show the
stored families. -/
structure InLine (k : Core) (c : Controls) : Prop where
  nearest : ∀ (id : SliderId) (n : Int32), k.store.getInteger? id.preferenceKey = some n →
    id.valueMap.Nearest (ValueMap.toRat n) (c.slider id).value
  family : ∀ (id : SliderId) (text : String), Page.storedFamily k.store id = some text → text ≠ "" →
    (k.page.samples.get id).family = some text

/-- The page follows the store, up to the changes that wait. -/
structure Follows (k : Core) (c : Controls) (strings : LocalizedStrings) : Prop where
  previews : k.Previews c strings
  locked : ∀ id : SliderId, (c.slider id).disabled = k.store.isManaged id.preferenceKey
  inLine : k.store.Quiet k.observer → k.InLine c

/-! ### Steps that the sliders and the samples do not take part in -/

section congr

variable {k k' : Core} {c c' : Controls} {strings : LocalizedStrings}

theorem Previews.congr (h : k.Previews c strings)
    (hvalue : ∀ id, (c'.slider id).value = (c.slider id).value)
    (hsamples : ∀ id, k'.page.samples.get id = k.page.samples.get id)
    (hstrings : k'.page.strings = k.page.strings) : k'.Previews c' strings := by
  refine ⟨hstrings.trans h.strings_eq, fun id => ?_, fun id => ?_, ?_⟩
  · rw [hsamples, hvalue]
    exact h.text id
  · rw [hsamples, hvalue]
    exact h.size id
  · rw [hsamples]
    exact h.minimum

theorem InLine.congr (h : k.InLine c) (hget : ∀ key, k'.store.get? key = k.store.get? key)
    (hvalue : ∀ id, (c'.slider id).value = (c.slider id).value)
    (hsamples : ∀ id, k'.page.samples.get id = k.page.samples.get id) : k'.InLine c' := by
  refine ⟨fun id n hn => ?_, fun id text htext hne => ?_⟩
  · rw [Preference.Store.getInteger?_congr hget] at hn
    rw [hvalue]
    exact h.nearest id n hn
  · rw [Page.storedFamily_congr hget] at htext
    rw [hsamples]
    exact h.family id text htext hne

theorem Follows.of_announced (h : k.Follows c strings)
    (hannounced : k.store.Announced k'.store k.observer) (hobserver : k'.observer = k.observer)
    (hmanaged : k'.store.managed = k.store.managed)
    (hvalue : ∀ id, (c'.slider id).value = (c.slider id).value)
    (hdisabled : ∀ id, (c'.slider id).disabled = (c.slider id).disabled)
    (hsamples : ∀ id, k'.page.samples.get id = k.page.samples.get id)
    (hstrings : k'.page.strings = k.page.strings) : k'.Follows c' strings := by
  refine ⟨h.previews.congr hvalue hsamples hstrings, fun id => ?_, fun hquiet => ?_⟩
  · rw [hdisabled, Preference.Store.isManaged, hmanaged]
    exact h.locked id
  · rw [hobserver] at hquiet
    obtain ⟨hbefore, hget⟩ := hannounced.quiet hquiet
    exact (h.inLine hbefore).congr hget hvalue hsamples

end congr

end Core

namespace App

variable {a : App} {c : Controls} {strings : LocalizedStrings}

/-! ### Motions -/

theorem announced_attemptAll (store : Preference.Store) (writes : List Write) (o : Nat) :
    store.Announced (Write.attemptAll store writes) o := by
  obtain ⟨edits, huser, -, heq⟩ := attemptAll_edits store writes
  rw [heq]
  exact Preference.Store.announced_edited huser store o

theorem managed_attemptAll (store : Preference.Store) (writes : List Write) :
    (Write.attemptAll store writes).managed = store.managed := by
  obtain ⟨edits, huser, -, heq⟩ := attemptAll_edits store writes
  rw [heq]
  exact Preference.Store.managed_edited huser store

/-- After a motion that is heard, the preference of its slider is the new value, unless policy locks
the preference. -/
theorem getInteger?_takeMotion (hover : a.store.OverFontDefaults) {id : SliderId}
    (hmanaged : a.store.isManaged id.preferenceKey = false) {m : Motion} {value : Int32}
    (hbuilt : (c.slider id).BuiltFor id) (hm : (c.slider id).Moves m)
    (hvalue : m.changed = some value) :
    (a.takeOutcome (a.page.takeMotion c id m)).store.getInteger? id.preferenceKey
      = some value := by
  -- the write to the preference is the last one
  have hlast : ∀ s : Preference.Store, s.OverFontDefaults →
      s.isManaged id.preferenceKey = false →
      (s.attempt id.preferenceKey (.integer value) Write.origin).getInteger? id.preferenceKey
        = some value := by
    intro s hs hsm
    rw [Preference.Store.getInteger?, Preference.Store.get?_attempt_self
      (Preference.Store.fault?_slider hs id value) hsm]
    rfl
  show (Write.attemptAll a.store (a.page.takeMotion c id m).writes).getInteger? _ = _
  rw [Page.takeMotion_writes a.page c hbuilt hm, hvalue]
  -- the minimum slider writes the logical minimum first, which leaves policy alone
  by_cases hminimum : id = .minimumSize
  · simp only [if_pos hminimum]
    refine hlast (a.store.attempt Preference.minimumLogicalFontSizeKey (.integer value)
      Write.origin) ?_ ?_
    · exact Preference.Store.overFontDefaults_edit hover (.set ..)
    · rw [Preference.Store.isManaged, Preference.Store.attempt_managed]
      exact hmanaged
  · simp only [if_neg hminimum]
    exact hlast a.store hover hmanaged

section takeMotion

variable {id : SliderId} {m : Motion}

theorem value_putSlider (hm : (c.slider id).Moves m) (id' : SliderId) :
    ((c.putSlider id m.slider).slider id').value
      = if id' = id then m.changed.getD (c.slider id).value else (c.slider id').value := by
  rw [Controls.slider_putSlider]
  split
  · exact hm.value_eq
  · rfl

theorem value_putSlider_of_silent (hm : (c.slider id).Moves m) (hnone : m.changed = none)
    (id' : SliderId) : ((c.putSlider id m.slider).slider id').value = (c.slider id').value := by
  rw [value_putSlider hm, hnone]
  split
  · next heq => rw [heq, Option.getD_none]
  · rfl

/-- A slider that moves renders what it stands at then, and no other sample. -/
theorem previews_takeMotion (hsound : a.core.Sound c) (h : a.core.Previews c strings)
    (hm : (c.slider id).Moves m) :
    (a.takeOutcome (a.page.takeMotion c id m)).core.Previews (c.putSlider id m.slider)
      strings := by
  have hsamples := Page.takeMotion_samples a.page c (hsound.built id) hm
  have hstrings := Page.takeMotion_strings a.page c (hsound.built id) hm
  cases hchanged : m.changed with
  | none =>
    simp only [hchanged] at hsamples
    exact h.congr (value_putSlider_of_silent hm hchanged) hsamples hstrings
  | some value =>
    -- the sample of the slider that moved is rendered, the others stay
    have hvalue := value_putSlider hm
    simp only [hchanged] at hsamples hvalue
    refine ⟨hstrings.trans h.strings_eq, fun id' => ?_, fun id' => ?_, ?_⟩
    · show ((a.page.takeMotion c id m).page.samples.get id').text = _
      rw [hsamples, hvalue, ← h.strings_eq]
      split
      · rfl
      · rw [h.strings_eq]
        exact h.text id'
    · show ((a.page.takeMotion c id m).page.samples.get id').size = _
      rw [hsamples, hvalue]
      split
      · rfl
      · exact h.size id'
    · show ((a.page.takeMotion c id m).page.samples.get .minimumSize).family = none
      rw [hsamples]
      split
      · next heq =>
        subst heq
        exact h.minimum
      · exact h.minimum

/-- A motion renders no family. -/
theorem family_takeMotion (hsound : a.core.Sound c) (hm : (c.slider id).Moves m) (id' : SliderId) :
    ((a.page.takeMotion c id m).page.samples.get id').family = (a.page.samples.get id').family := by
  rw [Page.takeMotion_samples a.page c (hsound.built id) hm]
  cases m.changed with
  | none => rfl
  | some value =>
    dsimp only
    split
    · next heq => rw [heq, SampleRegion.family_render_none]
    · rfl

/-- If no change waits after a motion, it has stored nothing new, and the slider that it moved
stands at the very value of its preference. -/
theorem inLine_takeMotion (hsound : a.core.Sound c) (hover : a.store.OverFontDefaults)
    (h : a.core.Follows c strings) (hm : (c.slider id).Moves m)
    (hquiet : (a.takeOutcome (a.page.takeMotion c id m)).store.Quiet a.observer) :
    (a.takeOutcome (a.page.takeMotion c id m)).core.InLine (c.putSlider id m.slider) := by
  have hbuilt := hsound.built id
  -- no change waits, so that none was made and none waited before
  obtain ⟨hbefore, hget⟩ := (announced_attemptAll a.store _ a.observer).quiet hquiet
  have hinLine := h.inLine hbefore
  refine ⟨fun id' n hn => ?_, fun id' text htext hne => ?_⟩
  · have hn' : a.store.getInteger? id'.preferenceKey = some n :=
      (Preference.Store.getInteger?_congr hget _).symm.trans hn
    by_cases heq : id' = id
    · subst heq
      cases hchanged : m.changed with
      | none =>
        rw [value_putSlider_of_silent hm hchanged]
        exact hinLine.nearest id' n hn'
      | some value =>
        -- what a slider announces is stored, since it announces nothing while it is locked
        have hunmanaged : a.store.isManaged id'.preferenceKey = false :=
          (h.locked id').symm.trans (hm.enabled hchanged)
        have hstored := getInteger?_takeMotion hover hunmanaged hbuilt hm hchanged
        have hvalue : m.slider.value = n := by
          rw [hm.value_eq, hchanged]
          exact Option.some_inj.1 (hstored.symm.trans hn)
        rw [Controls.slider_putSlider, if_pos rfl, ← hvalue]
        exact ValueMap.nearest_self (hbuilt.moves hm).mem
    · rw [value_putSlider hm, if_neg heq]
      exact hinLine.nearest id' n hn'
  · refine (family_takeMotion hsound hm id').trans (hinLine.family id' text ?_ hne)
    exact (Page.storedFamily_congr hget id').symm.trans htext

end takeMotion

theorem follows_takeMotion (hsound : a.core.Sound c) (hover : a.store.OverFontDefaults)
    (h : a.core.Follows c strings) {id : SliderId} {m : Motion} (hm : (c.slider id).Moves m) :
    (a.takeOutcome (a.page.takeMotion c id m)).core.Follows (c.putSlider id m.slider)
      strings := by
  refine ⟨previews_takeMotion hsound h.previews hm, fun id' => ?_,
    inLine_takeMotion hsound hover h hm⟩
  rw [disabled_putSlider hm]
  show _ = (Write.attemptAll a.store _).isManaged id'.preferenceKey
  rw [Preference.Store.isManaged, managed_attemptAll]
  exact h.locked id'

/-! ### The other moves -/

/-- A page that has just read the store again follows it. -/
theorem follows_resync {k : Core} {p : Page} (hc : p.controls? = some c)
    (hbuilt : ∀ id, (c.slider id).BuiltFor id)
    (hminimum : (p.samples.get .minimumSize).family = none)
    (hpage : k.page = p.resync k.store) : k.Follows (c.synced k.store) p.strings := by
  have hsamples := Page.resync_samples hc k.store
  have hstrings := Page.resync_strings hc k.store
  rw [← hpage] at hsamples hstrings
  constructor
  case previews =>
    refine ⟨hstrings, fun id => ?_, fun id => ?_, ?_⟩
    · rw [hsamples]
      rfl
    · rw [hsamples]
      rfl
    · -- a resynchronization gives the minimum sample no family
      rw [hsamples]
      exact hminimum
  case locked =>
    intro id
    rw [Controls.slider_synced]
    exact Page.syncSlider_disabled ..
  case inLine =>
    intro _
    refine ⟨fun id n hn => ?_, fun id text htext hne => ?_⟩
    · rw [Controls.slider_synced]
      exact Page.nearest_syncSlider (hbuilt id) hn
    · rw [hsamples, htext]
      simp [SampleRegion.render, hne]

theorem follows_drainPreferences (hsound : a.core.Sound c) (h : a.core.Follows c strings) :
    (a.move .drainPreferences).core.Follows (c.after a .drainPreferences) strings := by
  rw [Controls.after]
  show a.drainPreferences.1.core.Follows _ strings
  by_cases hquiet : a.store.Quiet a.observer
  · rw [if_pos hquiet, drainPreferences_of_quiet hquiet]
    have hsubscribed : ((a.store.drain a.observer).1.pending? a.observer).isSome = true :=
      congrArg Option.isSome (Preference.Store.quiet_drain hsound.subscribed)
    have hannounced : a.store.Announced (a.store.drain a.observer).1 a.observer :=
      ⟨fun _ => ⟨hquiet, Preference.Store.get?_drain a.store a.observer⟩,
        hsubscribed.trans hsound.subscribed.symm⟩
    exact h.of_announced hannounced rfl (Preference.Store.drain_managed ..) (fun _ => rfl)
      (fun _ => rfl) (fun _ => rfl) rfl
  · rw [if_neg hquiet, drainPreferences_of_not_quiet hsound.subscribed hquiet]
    rw [← h.previews.strings_eq]
    exact follows_resync hsound.controls hsound.built h.previews.minimum rfl

/-- The worker's answers are for the lists. -/
theorem follows_receive (h : a.core.Follows c strings) (r : WorkerResponse) :
    (a.receive r).core.Follows (c.received r) strings := by
  have hslider := fun id => slider_received c r id
  refine h.of_announced ?_ (receive_observer a r) ?_ (fun id => by rw [hslider])
    (fun id => by rw [hslider]) (fun id => ?_) ?_
  · show a.store.Announced (a.receive r).store a.observer
    rw [receive_store]
    exact .refl _ _
  · show (a.receive r).store.managed = a.store.managed
    rw [receive_store]
  · cases r with
    | fonts families encodings selected =>
      show (a.page.receiveFonts families encodings selected).samples.get id = _
      rw [Page.receiveFonts_samples]
      rfl
    | failure message context => rfl
  · cases r with
    | fonts families encodings selected => exact Page.receiveFonts_strings ..
    | failure message context => rfl

theorem follows_foldl_receive (responses : List WorkerResponse) {a : App} {c : Controls}
    (h : a.core.Follows c strings) :
    (responses.foldl receive a).core.Follows (responses.foldl Controls.received c) strings := by
  induction responses generalizing a c with
  | nil => exact h
  | cons r responses ih => exact ih (follows_receive h r)

theorem follows_move (hsound : a.core.Sound c) (hover : a.store.OverFontDefaults)
    (h : a.core.Follows c strings) (m : Move) : (a.move m).core.Follows (c.after a m) strings := by
  -- all that a move announces and that does not reach the samples
  have hstore : ∀ {m : Move}, m ≠ .drainPreferences → (a.move m).page.samples = a.page.samples →
      (a.move m).page.strings = a.page.strings →
      (∀ id, (c.after a m).slider id = c.slider id) →
        (a.move m).core.Follows (c.after a m) strings := by
    intro m hm hsamples hstrings hslider
    exact h.of_announced (announced_move a hm a.observer) (move_observer a m) (managed_move a m)
      (fun id => by rw [hslider]) (fun id => by rw [hslider])
      (fun id => congrArg (·.get id) hsamples) hstrings
  cases m with
  | stay => exact h
  | appear =>
    have hpage : (a.move .appear).page = a.page.appear.1 := showPanel_page a
    refine hstore (by simp) ?_ ?_ fun _ => rfl
    · rw [hpage, Page.appear_samples]
    · rw [hpage, Page.appear_strings]
  | nudge id step =>
    rw [move, nudge_eq hsound.controls]
    exact follows_takeMotion hsound hover h (Slider.moves_nudge _ step)
  | slide id position =>
    rw [move, input_eq hsound.controls]
    exact follows_takeMotion hsound hover h (Slider.moves_input _ position)
  | pick id index =>
    have hpage : (a.move (.pick id index)).page
        = a.page.withControls (c.putList id ((c.list id).select index).1) :=
      select_page hsound.controls id index
    refine hstore (by simp) ?_ ?_ fun id' => Controls.slider_putList ..
    · rw [hpage, Page.withControls_samples]
    · rw [hpage, Page.withControls_strings]
  | write key value origin => exact hstore (by simp) rfl rfl fun _ => rfl
  | clear key => exact hstore (by simp) rfl rfl fun _ => rfl
  | drainPreferences => exact follows_drainPreferences hsound h
  | drainWorker =>
    refine follows_foldl_receive a.responses (a := { a with responses := [] }) ?_
    exact h.of_announced (.refl _ _) rfl rfl (fun _ => rfl) (fun _ => rfl) (fun _ => rfl) rfl

/-! ### Runs without a lock -/

theorem follows_step (hsound : a.core.Sound c) (hover : a.store.OverFontDefaults)
    (h : a.core.Follows c strings) {e : Event} (hlock : ∀ key value, e ≠ .lock key value) :
    (a.step e).core.Follows (c.onEvent a e) strings := by
  cases e with
  | act x =>
    show (a.act x).core.Follows (c.after a (a.moveOf x)) strings
    rw [core_act]
    exact follows_move hsound hover h _
  | respond r =>
    exact h.of_announced (.refl _ _) rfl rfl (fun _ => rfl) (fun _ => rfl) (fun _ => rfl) rfl
  | receive r => exact follows_receive h r
  | lock key value => exact absurd rfl (hlock key value)

theorem follows_new (store : Preference.Store) (strings : LocalizedStrings) :
    (new store strings).core.Follows (newControls store strings) strings := by
  refine follows_resync (Page.setUp_new_controls? strings _) (fun id => ?_) rfl rfl
  rw [Page.slider_startControls]
  exact Page.builtFor_buildSlider _ id

theorem follows_run (hsound : ∃ c, a.core.Sound c ∧ a.core.Follows c strings)
    (hover : a.store.OverFontDefaults) {events : List Event}
    (hlock : ∀ key value, .lock key value ∉ events) :
    (∃ c, (a.run events).core.Sound c ∧ (a.run events).core.Follows c strings) ∧
      (a.run events).store.OverFontDefaults := by
  refine run_induction (motive := fun b => (∃ c, b.core.Sound c ∧ b.core.Follows c strings) ∧
    b.store.OverFontDefaults) ⟨hsound, hover⟩ ?_
  rintro b ⟨⟨c, hc, hf⟩, hb⟩ e he
  have hfirst : ∀ key value, e ≠ .lock key value := fun key value heq => hlock key value (heq ▸ he)
  exact ⟨⟨_, sound_step hc e, follows_step hc hb hf hfirst⟩, overFontDefaults_step hb e⟩

open Preference in
/-- **Sliders and samples follow the store.**  In every run over a prepared store, without a lock on
the way, the samples show what the sliders stand at, in size and in words; and when no change waits,
the sliders stand at the permitted values nearest to their preferences, those that policy locks are
locked, and the serif and fixed-width samples show the stored families. -/
theorem sliders_follow_store (edits : List Store.Edit) (strings : LocalizedStrings)
    (events : List Event) (hlock : ∀ key value, .lock key value ∉ events) :
    let a := (new (Store.withFontDefaults.edited edits) strings).run events
    ∃ c, a.page.controls? = some c ∧
      (∀ id : SliderId, (a.page.samples.get id).size = some (c.slider id).value ∧
        (a.page.samples.get id).text = toString (c.slider id).value.toInt ++ "pt: "
          ++ strings.get LocalizedStrings.sampleSentence) ∧
      a.page.samples.minimum.family = none ∧
      (a.store.Quiet a.observer →
        (∀ id : SliderId, ∃ n, a.store.getInteger? id.preferenceKey = some n ∧
          id.valueMap.Nearest (ValueMap.toRat n) (c.slider id).value) ∧
        (∀ id : SliderId, (c.slider id).disabled = a.store.isManaged id.preferenceKey) ∧
        (∀ family, a.store.getText? serifFamilyKey = some family → family ≠ "" →
          a.page.samples.serif.family = some family) ∧
        ∀ family, a.store.getText? fixedFamilyKey = some family → family ≠ "" →
          a.page.samples.fixed.family = some family) := by
  intro a
  have hstart := Store.overFontDefaults_edited edits
  obtain ⟨⟨c, hsound, hfollows⟩, hover⟩ := follows_run
    ⟨_, sound_new (Store.withFontDefaults.edited edits) strings, follows_new _ strings⟩
    (Store.overFontDefaults_edit hstart .observe) hlock
  refine ⟨c, hsound.controls, fun id => ⟨hfollows.previews.size id, hfollows.previews.text id⟩,
    hfollows.previews.minimum, fun hquiet => ?_⟩
  obtain ⟨hnearest, hfamily⟩ := hfollows.inLine hquiet
  refine ⟨fun id => ?_, hfollows.locked, fun family hstored => ?_, fun family hstored => ?_⟩
  · obtain ⟨n, hn⟩ := Store.getInteger?_eq_some hover id
    exact ⟨n, hn, hnearest id n hn⟩
  · refine hfamily .serifSize family ?_
    rw [Page.storedFamily, show a.core.store.getText? serifFamilyKey = _ from hstored,
      Option.getD_some]
  · refine hfamily .fixedSize family ?_
    rw [Page.storedFamily, show a.core.store.getText? fixedFamilyKey = _ from hstored,
      Option.getD_some]

open Preference in
/-- Writes from outside reach a slider and the family of its sample with the next drain, over a store
with a policy.  A size that is not permitted shows as the nearest one. -/
theorem serifSize_follows_write :
    let edits : List Store.Edit := [.lock minimumFontSizeKey (.integer 9)]
    let events : List Event := [.act (.showPanel .fonts),
      .act (.write fontSizeKey (.integer 41) "sync"),
      .act (.write serifFamilyKey (.text "Georgia") "sync"), .act .drainPreferences]
    let a := (new (Store.withFontDefaults.edited edits) default).run events
    ∃ c, a.page.controls? = some c ∧
      SliderId.serifSize.valueMap.Nearest (ValueMap.toRat 41) (c.slider .serifSize).value ∧
      a.page.samples.serif.text
        = "40pt: It was a bright cold day in April, and the clocks were striking thirteen." ∧
      a.page.samples.serif.size = some 40 ∧ a.page.samples.serif.family = some "Georgia" ∧
      a.page.samples.minimum.family = none ∧
      (c.slider .serifSize).disabled = false ∧ (c.slider .minimumSize).disabled = true := by
  intro edits events a
  have hlock : ∀ key value, .lock key value ∉ events := by simp [events]
  have hrun : (new (Store.withFontDefaults.edited edits) default).run events = a := rfl
  have hfollows := sliders_follow_store edits default events hlock
  rw [hrun] at hfollows
  obtain ⟨c, hc, hsamples, hminimum, hquiet⟩ := hfollows
  have hstored : a.store.Quiet a.observer ∧
      a.store.getInteger? SliderId.serifSize.preferenceKey = some 41 ∧
      a.store.getText? serifFamilyKey = some "Georgia" ∧
      a.store.isManaged SliderId.serifSize.preferenceKey = false ∧
      a.store.isManaged SliderId.minimumSize.preferenceKey = true := by
    decide +kernel +zetaReduce
  obtain ⟨hnothing, hsize, hfamily, hfree, hmanaged⟩ := hstored
  obtain ⟨hnearest, hlocked, hserif, -⟩ := hquiet hnothing
  obtain ⟨n, hn, hvalue⟩ := hnearest .serifSize
  have heq : n = 41 := Option.some_inj.1 (hn.symm.trans hsize)
  rw [heq] at hvalue
  -- the one permitted size that is nearest to 41
  have hforty : SliderId.serifSize.valueMap.closest (ValueMap.toRat 41) = 40 := by decide +kernel
  have hshown : (c.slider .serifSize).value = 40 :=
    (hvalue.unique (ValueMap.nearest_closest_toRat _ 41)).trans hforty
  have hwords : toString (40 : Int32).toInt ++ "pt: "
      ++ (default : LocalizedStrings).get LocalizedStrings.sampleSentence
      = "40pt: It was a bright cold day in April, and the clocks were striking thirteen." := by
    decide +kernel
  have hsample := hsamples .serifSize
  rw [hshown, hwords] at hsample
  simp only [Samples.get] at hsample
  exact ⟨c, hc, hvalue, hsample.2, hsample.1, hserif "Georgia" hfamily (by decide), hminimum,
    (hlocked _).trans hfree, (hlocked _).trans hmanaged⟩

end App
end FontPreferences
